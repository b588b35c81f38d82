import Mathlib.Data.List.TakeDrop
import UsbOverNetwork.Gui.AcceptThread

/-! One token, entered in a client and in a server of either kind, and what
reaches the handshake on both sides. The GUI client's module is left with a
pointer into the stack frame of `on_connect_clicked`. -/
namespace UsbOverNetwork

/-- `g_auth_token`: NULL, a string of the whole run, or the array `token` of
`on_connect_clicked`. -/
inductive TokenPointer
  | null
  | lasting (token : Token)
  | frame (token : Token)

/-- The connections of a GUI client: those that `on_connect_clicked` makes, and
those of the Refresh button and the checkboxes after it has returned. -/
inductive Occasion
  | connecting
  | later
deriving DecidableEq

/-- What a handshake finds behind the pointer. Where the frame is gone it finds
whatever the stack then holds. -/
def TokenPointer.read (occasion : Occasion) (stack : Token) : TokenPointer → Option Token
  | .null => none
  | .lasting token => some token
  | .frame token => some (if occasion = .connecting then token else stack)

inductive TokenEntry
  | commandLine (keyArg env : Option Token)
  | window (field : Token)

namespace TokenEntry

def windowed : TokenEntry → Bool
  | .commandLine _ _ => false
  | .window _ => true

/-- As an argument, or else in the environment; or in the token field. -/
def Enters (token : Token) : TokenEntry → Prop
  | .commandLine keyArg env =>
    keyArg = some token ∨ (∀ arg, keyArg = some arg → arg.chars = []) ∧ env = some token
  | .window field => field = token

/-- What `remote_device_set_token` is given. -/
def clientToken : TokenEntry → TokenPointer
  | .commandLine keyArg env => .lasting (authGetToken keyArg env)
  | .window field =>
    let token := field.truncate (authTokenMaxLen - 1)
    if token.chars ≠ [] then .frame token else .null

/-- The token is still there when the client connects. -/
def Holds (occasion : Occasion) (entry : TokenEntry) : Prop :=
  occasion = .later → entry.windowed = false

def serverToken : TokenEntry → Option Token
  | .commandLine keyArg env => some (authGetToken keyArg env)
  | .window field => some (GuiListener.startServer field).authToken

/-- What is left of a token that is entered here. -/
def kept (entry : TokenEntry) (token : Token) : Token :=
  if entry.windowed then token.truncate (authTokenMaxLen - 1) else token

end TokenEntry

/-- A client that can send is content, and a server that its frame reaches in
time accepts it. -/
def Accepts (presented expected : Option Token) : Prop :=
  ∀ peer : Socket, peer.Delivers →
    (authClientHandshake peer presented).1 = .success ∧
    ∃ frame, (authClientHandshake peer presented).2.sent = peer.sent ++ frame ∧
      ∀ (socket : Socket) (rest : List UInt8) (waits : HandshakeWaits),
        socket.stream = frame ++ rest →
        waits.InTime socket (frame.length - authWireHeaderLen) →
        (authServerHandshake expected waits socket).1 = .success

/-- They authenticate each other, whatever the client's stack holds. -/
def Authenticates (occasion : Occasion) (client server : TokenEntry) : Prop :=
  ∀ stack : Token, Accepts (client.clientToken.read occasion stack) server.serverToken

theorem authGetToken_arg {token : Token} (enabled : token.chars ≠ []) (env : Option Token) :
    authGetToken (some token) env = token := by
  simp [authGetToken,Option.filter,enabled]

theorem truncate_eq_self {room : Nat} {token : Token} :
    token.truncate room = token ↔ token.chars.length ≤ room := by
  rw [Token.ext_iff]
  exact List.take_eq_self_iff _

theorem truncate_enabled {token : Token} (enabled : token.chars ≠ []) :
    (token.truncate (authTokenMaxLen - 1)).chars ≠ [] := by
  simp [Token.truncate,authTokenMaxLen,enabled]

namespace TokenEntry

variable {entry client server : TokenEntry} {token : Token}

theorem authGetToken_entered {keyArg env : Option Token} (enabled : token.chars ≠ [])
    (entered : (commandLine keyArg env).Enters token) : authGetToken keyArg env = token := by
  rcases entered with rfl | ⟨blank,rfl⟩
  · exact authGetToken_arg enabled env
  · exact authGetToken_env enabled fun arg given => Or.inl (blank arg given)

theorem window_clientToken (enabled : token.chars ≠ []) :
    (window token).clientToken = .frame (token.truncate (authTokenMaxLen - 1)) :=
  if_pos (truncate_enabled enabled)

theorem clientToken_entered (enabled : token.chars ≠ []) (entered : entry.Enters token)
    {occasion : Occasion} (holds : entry.Holds occasion) (stack : Token) :
    entry.clientToken.read occasion stack = some (entry.kept token) := by
  cases entry with
  | commandLine keyArg env => exact congrArg some (authGetToken_entered enabled entered)
  | window field =>
    cases entered
    cases occasion with
    | connecting => rw [window_clientToken enabled]; rfl
    | later => cases holds rfl

theorem clientToken_gone (enabled : token.chars ≠ []) (entered : entry.Enters token)
    {occasion : Occasion} (gone : ¬entry.Holds occasion) (stack : Token) :
    entry.clientToken.read occasion stack = some stack := by
  obtain ⟨rfl,windowed⟩ := Classical.not_imp.mp gone
  cases entry with
  | commandLine keyArg env => exact absurd rfl windowed
  | window field =>
    cases entered
    rw [window_clientToken enabled]
    rfl

theorem serverToken_entered (enabled : token.chars ≠ []) (entered : entry.Enters token) :
    entry.serverToken = some (entry.kept token) := by
  cases entry with
  | commandLine keyArg env => exact congrArg some (authGetToken_entered enabled entered)
  | window field => cases entered; rfl

theorem kept_enabled (enabled : token.chars ≠ []) : (entry.kept token).chars ≠ [] := by
  cases entry with
  | commandLine keyArg env => exact enabled
  | window field => exact truncate_enabled enabled

theorem kept_fits (fits : token.chars.length ≤ authTokenMaxLen) :
    (entry.kept token).chars.length ≤ authTokenMaxLen := by
  cases entry with
  | commandLine keyArg env => exact fits
  | window field => exact (List.length_take_le' _ _).trans fits

theorem kept_eq_iff : client.kept token = server.kept token ↔
    token.chars.length ≤ authTokenMaxLen - 1 ∨ client.windowed = server.windowed := by
  cases client with
  | commandLine keyArg env =>
    cases server with
    | commandLine otherArg otherEnv => simp [kept,windowed]
    | window field => simp [kept,windowed,← truncate_eq_self,eq_comm]
  | window field =>
    cases server with
    | commandLine otherArg otherEnv => simp [kept,windowed,truncate_eq_self]
    | window other => simp [kept,windowed]

end TokenEntry

theorem accepts_iff {sent expected : Token} (enabled : sent.chars ≠ [])
    (fits : sent.chars.length ≤ authTokenMaxLen) (named : expected.chars ≠ [])
    (short : expected.chars.length ≤ authTokenMaxLen) :
    Accepts (some sent) (some expected) ↔ sent = expected := by
  have counted : (authWireMagic ++ UInt8.ofNat sent.chars.length::sent.chars).length - authWireHeaderLen =
      sent.chars.length := by
    simp [authWireMagic,authWireHeaderLen]
  have handshake (peer : Socket) (delivers : peer.Delivers) :
      (authClientHandshake peer (some sent)).1 = .success ∧
        (authClientHandshake peer (some sent)).2.sent =
          peer.sent ++ (authWireMagic ++ UInt8.ofNat sent.chars.length::sent.chars) := by
    have all := (sendLoop_delivers (authWireMagic ++ UInt8.ofNat sent.chars.length::sent.chars).length
      peer.outgoing (authWireMagic ++ UInt8.ofNat sent.chars.length::sent.chars) peer.sent delivers).1
    rw [authClientHandshake_frame enabled fits]
    exact ⟨if_pos all,netSendAll_all peer _ all⟩
  constructor
  · intro accepted
    by_contra different
    obtain ⟨_,frame,framed,accepts⟩ := accepted ⟨[],.closed,[],[]⟩ (by simp [Socket.Delivers])
    rw [(handshake ⟨[],.closed,[],[]⟩ (by simp [Socket.Delivers])).2] at framed
    have same := List.append_cancel_left framed
    subst same
    let socket : Socket := ⟨RecvEvent.unread
      (authWireMagic ++ UInt8.ofNat sent.chars.length::sent.chars) [],.closed,[],[]⟩
    have stream : socket.stream = authWireMagic ++ UInt8.ofNat sent.chars.length::sent.chars ++ [] := by
      simp [socket,Socket.stream]
    have granted := accepts socket [] ⟨.prompt,.prompt⟩ stream (prompt_inTime _ _)
    rw [authServerHandshake_denies (Ne.symm different) named short fits stream] at granted
    cases granted
  · rintro rfl peer delivers
    obtain ⟨succeeded,framed⟩ := handshake peer delivers
    refine ⟨succeeded,_,framed,?_⟩
    intro socket rest waits stream inTime
    rw [counted] at inTime
    obtain ⟨next,_,accepted⟩ := authServerHandshake_frame enabled enabled fits stream inTime
    rw [accepted]
    exact if_pos ((tokenDiff_short fits fits).mpr rfl)

namespace TokenEntry

variable {client server : TokenEntry} {token : Token} {occasion : Occasion}

theorem authenticates_kept (enabled : token.chars ≠ []) (fits : token.chars.length ≤ authTokenMaxLen)
    (entered : client.Enters token) (awaited : server.Enters token) (holds : client.Holds occasion) :
    Authenticates occasion client server ↔ client.kept token = server.kept token := by
  rw [← accepts_iff (kept_enabled enabled) (kept_fits fits) (kept_enabled enabled) (kept_fits fits),
    Authenticates,serverToken_entered enabled awaited]
  constructor
  · intro authenticates
    have accepts := authenticates token
    rwa [clientToken_entered enabled entered holds] at accepts
  · intro accepts stack
    rwa [clientToken_entered enabled entered holds]

theorem not_authenticates (enabled : token.chars ≠ []) (fits : token.chars.length ≤ authTokenMaxLen)
    (entered : client.Enters token) (awaited : server.Enters token) (gone : ¬client.Holds occasion) :
    ¬Authenticates occasion client server := by
  intro authenticates
  have taken (stack : Token) (some : stack.chars ≠ []) (short : stack.chars.length ≤ authTokenMaxLen) :
      stack = server.kept token := by
    have accepts := authenticates stack
    rw [clientToken_gone enabled entered gone,serverToken_entered enabled awaited] at accepts
    exact (accepts_iff some short (kept_enabled enabled) (kept_fits fits)).mp accepts
  have same := (taken shortToken (by decide) (by decide)).trans
    (taken secret (by decide) (by decide)).symm
  exact absurd same (by decide)

end TokenEntry

/-- A client and a server with the same token of at most 64 bytes authenticate
each other exactly if the client's token is still there, and they are of the same
kind or the token has a byte less. -/
theorem authenticates_iff (token : Token) (enabled : token.chars ≠ [])
    (fits : token.chars.length ≤ authTokenMaxLen) (client server : TokenEntry)
    (entered : client.Enters token) (awaited : server.Enters token) (occasion : Occasion) :
    Authenticates occasion client server ↔ (occasion = .later → client.windowed = false) ∧
      (token.chars.length ≤ authTokenMaxLen - 1 ∨ client.windowed = server.windowed) := by
  by_cases holds : client.Holds occasion
  · rw [TokenEntry.authenticates_kept enabled fits entered awaited holds,TokenEntry.kept_eq_iff]
    exact (and_iff_right holds).symm
  · exact iff_of_false (TokenEntry.not_authenticates enabled fits entered awaited holds)
      (fun both => holds both.1)

theorem authenticates_iff_secret :
    Authenticates .connecting (.window secret) (.commandLine (some secret) none) ∧
      Authenticates .later (.commandLine (some secret) none) (.window secret) :=
  ⟨(authenticates_iff secret (by decide) (by decide) (.window secret) (.commandLine (some secret) none)
      rfl (Or.inl rfl) .connecting).mpr ⟨by decide,Or.inl (by decide)⟩,
    (authenticates_iff secret (by decide) (by decide) (.commandLine (some secret) none) (.window secret)
      (Or.inl rfl) rfl .later).mpr ⟨fun _ => rfl,Or.inl (by decide)⟩⟩

def fullToken : Token := ⟨List.replicate 64 0x61,by decide +kernel⟩

/-- A token of 64 bytes lets no command line client into a GUI server, and the
token of a GUI client may be gone once `on_connect_clicked` has returned. -/
theorem entered_tokens_denied :
    (fullToken.chars.length = authTokenMaxLen ∧
      TokenEntry.Enters fullToken (.commandLine (some fullToken) none) ∧
      TokenEntry.Enters fullToken (.window fullToken) ∧
      ¬Authenticates .connecting (.commandLine (some fullToken) none) (.window fullToken)) ∧
    TokenEntry.Enters secret (.window secret) ∧
      ¬Authenticates .later (.window secret) (.window secret) := by
  have enabled : fullToken.chars ≠ [] := by decide
  have fits : fullToken.chars.length ≤ authTokenMaxLen := by decide
  have entered : TokenEntry.Enters fullToken (.commandLine (some fullToken) none) := Or.inl rfl
  have awaited : TokenEntry.Enters fullToken (.window fullToken) := rfl
  refine ⟨⟨by decide,entered,awaited,?_⟩,rfl,?_⟩
  · rw [TokenEntry.authenticates_kept enabled fits entered awaited (fun _ => rfl),TokenEntry.kept_eq_iff]
    decide
  · refine @TokenEntry.not_authenticates _ _ secret _ (by decide) (by decide) rfl rfl ?_
    intro holds
    cases holds rfl

end UsbOverNetwork
