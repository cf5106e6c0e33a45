import RustDcp.BootstrapOrder
import RustDcp.ScramVerification

namespace RustDcp
set_option autoImplicit true

open Dialogue KvLog

namespace SaslMechanism

def strength : SaslMechanism → Nat
  | plain => 0
  | scram .sha1 => 1
  | scram .sha256 => 2
  | scram .sha512 => 3

theorem select_strongest (h : select list = .ok mechanism) :
    offered list mechanism = true ∧
      ∀ other, offered list other = true → other.strength ≤ mechanism.strength := by
  rw [select] at h
  split at h
  case h_2 => cases h
  rename_i found hfound
  cases h
  have hoffered := List.find?_some hfound
  refine ⟨hoffered, ?_⟩
  intro other hother
  simp only [preference, List.find?_cons] at hfound
  split at hfound
  · cases hfound
    cases other with
    | plain => exact Nat.zero_le _
    | scram algorithm => cases algorithm <;> decide
  rename_i hsha512
  split at hfound
  · cases hfound
    cases other with
    | plain => exact Nat.zero_le _
    | scram algorithm =>
      cases algorithm with
      | sha512 => exact absurd hother (by simp [hsha512])
      | sha1 => decide
      | sha256 => decide
  rename_i hsha256
  split at hfound
  · cases hfound
    cases other with
    | plain => exact Nat.zero_le _
    | scram algorithm =>
      cases algorithm with
      | sha512 => exact absurd hother (by simp [hsha512])
      | sha256 => exact absurd hother (by simp [hsha256])
      | sha1 => decide
  rename_i hsha1
  split at hfound
  · cases hfound
    cases other with
    | plain => exact Nat.zero_le _
    | scram algorithm =>
      cases algorithm with
      | sha512 => exact absurd hother (by simp [hsha512])
      | sha256 => exact absurd hother (by simp [hsha256])
      | sha1 => exact absurd hother (by simp [hsha1])
  · cases hfound

end SaslMechanism

structure Frame.RepliesWith (response : Frame) (opcode : Opcode) (status : Status) : Prop where
  magic : response.magic.isResponse = true
  opcode : response.opcode = opcode
  status : response.status = status

/-- The exchange of SCRAM went through: the server asked for the proof of the password, accepted it
and showed the signature that belongs to the password. -/
def ScramProof (crypto : ScramCrypto) (credentials : Credentials) (algorithm : ScramAlgorithm)
    (requests : List (Frame × Result Frame)) : Prop :=
  ∃ nonce client first message last signature,
    ScramClient.new crypto algorithm credentials.username credentials.password nonce = .ok client ∧
    (Command.saslAuth (SaslMechanism.scram algorithm).name client.start 0, .ok first) ∈ requests ∧
    (Command.saslStep (SaslMechanism.scram algorithm).name message 0, .ok last) ∈ requests ∧
    first.RepliesWith Opcode.saslAuth Status.authContinue ∧
    (client.handleServerFirst crypto first.value).1 = .ok message ∧
    last.RepliesWith Opcode.saslStep Status.success ∧
    readServerFinal crypto last.value = .ok signature ∧
    ScramSession.Signs crypto client credentials.password first.value signature

/-- The client is authenticated by the strongest mechanism that the server offered. -/
def Authenticated (crypto : ScramCrypto) (credentials : Credentials)
    (requests : List (Frame × Result Frame)) (mechanism : SaslMechanism) : Prop :=
  (∃ list, (Command.saslListMechanisms 0, .ok list) ∈ requests ∧
    list.RepliesWith Opcode.saslListMechs Status.success ∧
    SaslMechanism.offered (utf8Lossy list.value) mechanism = true ∧
    ∀ other, SaslMechanism.offered (utf8Lossy list.value) other = true →
      other.strength ≤ mechanism.strength) ∧
  match mechanism with
  | .plain => ∃ response, response.RepliesWith Opcode.saslAuth Status.success ∧
      (Command.saslAuth SaslMechanism.plain.name credentials.plainPayload 0,
        .ok response) ∈ requests
  | .scram algorithm => ScramProof crypto credentials algorithm requests

theorem ScramClient.new_eq_ok {crypto : ScramCrypto} {algorithm : ScramAlgorithm}
    {password : String}
    (h : ScramClient.new crypto algorithm username password nonce = .ok client) :
    client.password = password := by
  cases nonce with
  | error error => cases h
  | ok nonce =>
    cases h
    rfl

/-- Both steps of the client together: the signature is verified against the one of the first
message. -/
theorem ScramClient.verified_signs {crypto : ScramCrypto} {client : ScramClient}
    (hmessage : (client.handleServerFirst crypto first).1 = .ok message)
    (hverified :
      ((client.handleServerFirst crypto first).2.verifyServerFinal crypto last).1 = .ok ()) :
    ∃ signature, readServerFinal crypto last = .ok signature ∧
      ScramSession.Signs crypto client client.password first signature := by
  rw [handleServerFirst] at hmessage hverified
  split at hmessage
  · cases hmessage
  rename_i hnone
  rw [if_neg hnone] at hverified
  split at hmessage
  · cases hmessage
  rename_i hello hfirst
  rw [hfirst] at hverified
  dsimp only at hmessage hverified
  split at hmessage
  · cases hmessage
  rename_i proof signature hcalculate
  rw [hcalculate] at hverified
  dsimp only [verifyServerFinal] at hverified
  split at hverified
  · cases hverified
  rename_i shown hshown
  split at hverified
  · cases hverified
  rename_i hsame
  exact ⟨shown, hshown, hello, proof, hfirst, by rw [hcalculate, not_not.1 hsame]⟩

theorem ensureAuthStatus_replies (h : ensureAuthStatus response opcode status = .ok ()) :
    response.RepliesWith opcode status := by
  obtain ⟨hmagic, hopcode, hstatus⟩ := ensureAuthStatus_eq_ok h
  exact ⟨hmagic, hopcode, hstatus⟩

theorem authenticatePlain_proof (h : (authenticatePlain connection credentials).Path log (.ok ())) :
    ∃ response, response.RepliesWith Opcode.saslAuth Status.success ∧
      (Command.saslAuth SaslMechanism.plain.name credentials.plainPayload 0, .ok response) ∈
        requests log := by
  obtain ⟨response, first, second, rfl, hfirst, hsecond⟩ := path_bind_ok.1 h
  obtain ⟨rfl, hsuccess⟩ := path_lift.1 hsecond
  cases Connection.path_request.1 hfirst
  exact ⟨response, ensureAuthStatus_replies hsuccess.symm, by simp⟩

theorem authenticateScram_proof
    (h : (authenticateScram crypto connection credentials algorithm).Path log (.ok ())) :
    ScramProof crypto credentials algorithm (requests log) := by
  obtain ⟨nonce, rest, rfl, h₁⟩ := path_fillNonce_bind.1 h
  obtain ⟨client, hclient, h₂⟩ := path_lift_bind_ok.1 h₁
  obtain ⟨first, _, rest, rfl, hfirst, h₃⟩ := Connection.path_checked_ok.1 h₂
  obtain ⟨message, hmessage, h₄⟩ := path_lift_bind_ok.1 h₃
  obtain ⟨last, _, rest, rfl, hlast, h₅⟩ := Connection.path_checked_ok.1 h₄
  obtain ⟨rfl, hverified⟩ := path_lift.1 h₅
  obtain ⟨signature, hshown, hsigns⟩ := ScramClient.verified_signs hmessage hverified.symm
  rw [ScramClient.new_eq_ok hclient] at hsigns
  exact ⟨nonce, client, first, message, last, signature, hclient, by simp, by simp,
    ensureAuthStatus_replies hfirst, hmessage, ensureAuthStatus_replies hlast, hshown, hsigns⟩

theorem Authenticated.mono (h : Authenticated crypto credentials before mechanism)
    (hsub : before ⊆ after) : Authenticated crypto credentials after mechanism := by
  obtain ⟨⟨list, hlist, hstrongest⟩, hproof⟩ := h
  refine ⟨⟨list, hsub hlist, hstrongest⟩, ?_⟩
  cases mechanism with
  | plain =>
    obtain ⟨response, hsuccess, hmem⟩ := hproof
    exact ⟨response, hsuccess, hsub hmem⟩
  | scram algorithm =>
    obtain ⟨nonce, client, first, message, last, signature, hclient, hfirst, hlast, hrest⟩ := hproof
    exact ⟨nonce, client, first, message, last, signature, hclient, hsub hfirst, hsub hlast, hrest⟩

theorem authenticate_proof
    (h : (authenticate crypto connection credentials).Path log (.ok mechanism)) :
    Authenticated crypto credentials (requests log) mechanism := by
  obtain ⟨list, _, rest, rfl, hlist, h₁⟩ := Connection.path_checked_ok.1 h
  obtain ⟨selected, hselect, h₂⟩ := path_lift_bind_ok.1 h₁
  have hlist := And.intro (ensureAuthStatus_replies hlist) (SaslMechanism.select_strongest hselect)
  have hproof : ∀ {d : KvClient Unit}, (d >>= fun _ => pure selected).Path rest (.ok mechanism) →
      mechanism = selected ∧ d.Path rest (.ok ()) := by
    intro d hd
    obtain ⟨_, first, second, rfl, hfirst, hsecond⟩ := path_bind_ok.1 hd
    obtain ⟨rfl, hsame⟩ := path_pure.1 hsecond
    rw [List.append_nil]
    exact ⟨Except.ok.inj hsame, hfirst⟩
  cases selected with
  | plain =>
    obtain ⟨rfl, hplain⟩ := hproof h₂
    obtain ⟨response, hsuccess, hmem⟩ := authenticatePlain_proof hplain
    exact ⟨⟨list, by simp, hlist⟩, response, hsuccess, by simp [hmem]⟩
  | scram algorithm =>
    obtain ⟨rfl, hscram⟩ := hproof h₂
    obtain ⟨nonce, client, first, message, last, signature, hclient, hfirst, hlast, hrest⟩ :=
      authenticateScram_proof hscram
    exact ⟨⟨list, by simp, hlist⟩, nonce, client, first, message, last, signature, hclient,
      by simp [hfirst], by simp [hlast], hrest⟩

def saslOpcodes : List Opcode :=
  [Opcode.hello, Opcode.saslListMechs, Opcode.saslAuth, Opcode.saslStep]

theorem mem_saslOpcodes (h : handshakeRank opcode < 4) : opcode ∈ saslOpcodes := by
  by_contra hmem
  have hlater : handshakeRank opcode = saslOpcodes.length +
      [Opcode.selectBucket, Opcode.dcpOpen, Opcode.dcpControl].idxOf opcode :=
    List.idxOf_append_of_notMem hmem
  have hlength : saslOpcodes.length = 4 := rfl
  omega

/-- A log that is over, unless authentication has succeeded, when its requests that authenticate
are. -/
def Gated (crypto : ScramCrypto) (credentials : Credentials) (log : KvLog) (passed : Prop) : Prop :=
  ∃ first second, log = first ++ second ∧ (∀ x ∈ requests first, x.1.opcode ∈ saslOpcodes) ∧
    (second ≠ [] ∨ passed →
      ∃ mechanism, Authenticated crypto credentials (requests first) mechanism)

theorem Gated.bind {d : KvClient α} {f : α → KvClient β} (hstaged : Staged connection 0 4 d)
    (hproof : ∀ log a, d.Path log (.ok a) →
      ∃ mechanism, Authenticated crypto credentials (requests log) mechanism)
    (h : (d >>= f).Path log outcome) : Gated crypto credentials log (∃ b, outcome = .ok b) := by
  have hopcodes : ∀ {log result}, d.Path log result → ∀ x ∈ requests log,
      x.1.opcode ∈ saslOpcodes :=
    fun hpath x hx => mem_saslOpcodes (hstaged.ranked hpath x hx).2
  rcases path_bind.1 h with ⟨a, first, second, rfl, hfirst, -⟩ | ⟨error, herror, rfl⟩
  · exact ⟨first, second, rfl, hopcodes hfirst, fun _ => hproof first a hfirst⟩
  · exact ⟨log, [], (List.append_nil log).symm, hopcodes herror, by simp⟩

theorem negotiate_proof
    (h : (negotiate crypto connection config clientName).Path log (.ok negotiated)) :
    Authenticated crypto config.credentials (requests log) negotiated.2 := by
  obtain ⟨_, -, h₁⟩ := path_lift_bind_ok.1 h
  obtain ⟨_, -, h₂⟩ := path_lift_bind_ok.1 h₁
  obtain ⟨response, _, rest, rfl, -, h₃⟩ := Connection.path_checked_ok.1 h₂
  obtain ⟨helloFeatures, -, h₄⟩ := path_lift_bind_ok.1 h₃
  obtain ⟨_, rest, rfl, h₅⟩ := Connection.path_setCollectionsEnabled_bind.1 h₄
  obtain ⟨_, rest, rfl, h₆⟩ := Connection.path_setSnappyEnabled_bind.1 h₅
  obtain ⟨mechanism, first, second, rfl, hfirst, hsecond⟩ := path_bind_ok.1 h₆
  obtain ⟨rfl, hsame⟩ := path_pure.1 hsecond
  cases hsame
  exact (authenticate_proof hfirst).mono (by simp)

theorem bootstrapKvOnConnection_gated
    (h : (bootstrapKvOnConnection crypto connection config clientName).Path log outcome) :
    Gated crypto config.credentials log (∃ session, outcome = .ok session) :=
  .bind (negotiate_staged crypto connection config clientName)
    (fun _ negotiated hpath => ⟨negotiated.2, negotiate_proof hpath⟩) h

theorem bootstrapOnConnection_gated
    (h : (bootstrapOnConnection crypto connection config clientName connectionName).Path
      log outcome) : Gated crypto config.credentials log (∃ session, outcome = .ok session) := by
  rcases path_lift_bind.1 h with ⟨_, -, h₁⟩ | ⟨error, -, rfl, rfl⟩
  case inr => exact ⟨[], [], rfl, by simp, by simp⟩
  rcases path_bind.1 h₁ with ⟨kv, first, second, rfl, hfirst, -⟩ | ⟨error, herror, rfl⟩
  · obtain ⟨sasl, rest, rfl, hopcodes, hpassed⟩ := bootstrapKvOnConnection_gated hfirst
    exact ⟨sasl, rest ++ second, List.append_assoc _ _ _, hopcodes,
      fun _ => hpassed (.inr ⟨kv, rfl⟩)⟩
  · obtain ⟨sasl, rest, rfl, hopcodes, hpassed⟩ := bootstrapKvOnConnection_gated herror
    exact ⟨sasl, rest, rfl, hopcodes, fun h => hpassed (h.imp_right fun ⟨_, h⟩ => by cases h)⟩

/-- A request that does not authenticate comes after an authentication on its own connection. -/
def GatedRequests (crypto : ScramCrypto) (credentials : Credentials) (log : KvLog) : Prop :=
  ∀ before connectionId frame reply after,
    log = before ++ ⟨.request connectionId frame, reply⟩ :: after → frame.opcode ∉ saslOpcodes →
    ∃ older seed recent mechanism, before = older ++ ⟨.connect seed, .ok connectionId⟩ :: recent ∧
      (∀ exchange ∈ recent, exchange.command.On connectionId) ∧
      Authenticated crypto credentials (requests recent) mechanism

theorem Gated.request (h : Gated crypto credentials log passed)
    (hlog : log = before ++ ⟨.request connectionId frame, reply⟩ :: after)
    (hopcode : frame.opcode ∉ saslOpcodes) :
    ∃ mechanism, Authenticated crypto credentials (requests before) mechanism := by
  obtain ⟨first, second, rfl, hopcodes, hpassed⟩ := h
  rcases List.append_eq_append_iff.1 hlog with ⟨middle, rfl, hsecond⟩ | ⟨middle, rfl, hmiddle⟩
  · have hne : second ≠ [] := by simp [hsecond]
    obtain ⟨mechanism, hproof⟩ := hpassed (.inl hne)
    exact ⟨mechanism, hproof.mono (by simp)⟩
  · cases middle with
    | nil =>
      have hne : second ≠ [] := by
        rintro rfl
        cases hmiddle
      obtain ⟨mechanism, hproof⟩ := hpassed (.inl hne)
      exact ⟨mechanism, hproof.mono (by simp)⟩
    | cons exchange middle =>
      cases hmiddle
      have hmem : (frame, reply) ∈
          requests (before ++ ⟨.request connectionId frame, reply⟩ :: middle) := by
        rw [requests_append]
        exact List.mem_append_right _ List.mem_cons_self
      exact absurd (hopcodes _ hmem) hopcode

theorem GatedRequests.append {earlier rest : KvLog}
    (hearlier : GatedRequests crypto credentials earlier)
    (h : GatedRequests crypto credentials rest) :
    GatedRequests crypto credentials (earlier ++ rest) := by
  intro before connectionId frame reply after hlog hopcode
  have hrest : ∀ between, rest = between ++ ⟨.request connectionId frame, reply⟩ :: after →
      before = earlier ++ between → ∃ older seed recent mechanism,
        before = older ++ ⟨.connect seed, .ok connectionId⟩ :: recent ∧
        (∀ exchange ∈ recent, exchange.command.On connectionId) ∧
        Authenticated crypto credentials (requests recent) mechanism := by
    rintro between hbetween rfl
    obtain ⟨older, seed, recent, mechanism, rfl, hproof⟩ := h _ _ _ _ _ hbetween hopcode
    exact ⟨earlier ++ older, seed, recent, mechanism, (List.append_assoc _ _ _).symm, hproof⟩
  rcases List.append_eq_append_iff.1 hlog with ⟨between, hbefore, hbetween⟩ | ⟨between, rfl, hafter⟩
  · exact hrest between hbetween hbefore
  · cases between with
    | nil => exact hrest [] hafter.symm (by simp)
    | cons exchange between =>
      cases hafter
      exact hearlier before connectionId frame reply between rfl hopcode

/-- The connection was opened by the log and is authenticated on it. -/
def OpenedBy (crypto : ScramCrypto) (credentials : Credentials) (log : KvLog)
    (session : KvSession) : Prop :=
  ∃ older seed recent, log = older ++ ⟨.connect seed, .ok session.connection.id⟩ :: recent ∧
    (∀ exchange ∈ recent, exchange.command.On session.connection.id) ∧
    Authenticated crypto credentials (requests recent) session.capabilities.saslMechanism

theorem OpenedBy.append (h : OpenedBy crypto credentials rest session) (earlier : KvLog) :
    OpenedBy crypto credentials (earlier ++ rest) session := by
  obtain ⟨older, seed, recent, rfl, hproof⟩ := h
  exact ⟨earlier ++ older, seed, recent, (List.append_assoc _ _ _).symm, hproof⟩

theorem bootstrapOnConnection_proof
    (h : (bootstrapOnConnection crypto connection config clientName connectionName).Path
      log (.ok session)) :
    session.connection = connection ∧
      Authenticated crypto config.credentials (requests log)
        session.capabilities.saslMechanism := by
  obtain ⟨_, -, h₁⟩ := path_lift_bind_ok.1 h
  obtain ⟨kv, kvLog, _, rfl, kvRun, h₂⟩ := path_bind_ok.1 h₁
  obtain ⟨response, _, _, rfl, -, h₃⟩ := Connection.path_checked_ok.1 h₂
  obtain ⟨controls, controlLog, _, rfl, -, hpure⟩ := path_bind_ok.1 h₃
  obtain ⟨rfl, hsession⟩ := path_pure.1 hpure
  obtain rfl := Except.ok.inj hsession
  obtain ⟨negotiated, first, _, rfl, negotiation, h₄⟩ := path_bind_ok.1 kvRun
  obtain ⟨_, _, _, rfl, -, hpure⟩ := Connection.path_checked_ok.1 h₄
  obtain ⟨rfl, hkv⟩ := path_pure.1 hpure
  obtain rfl := Except.ok.inj hkv
  exact ⟨rfl, (negotiate_proof negotiation).mono (by simp)⟩

theorem GatedRequests.attempt {segment : KvLog} (hsegment : Gated crypto credentials segment passed)
    (hissues : ∀ exchange ∈ segment, exchange.command.On connectionId) (seed : SeedAddress) :
    GatedRequests crypto credentials (⟨.connect seed, .ok connectionId⟩ :: segment) := by
  intro before other frame reply after hlog hopcode
  cases before with
  | nil => cases hlog
  | cons exchange before =>
    rw [List.cons_append, List.cons.injEq] at hlog
    obtain ⟨rfl, rfl⟩ := hlog
    obtain ⟨mechanism, hproof⟩ := hsegment.request rfl hopcode
    cases hissues ⟨.request other frame, reply⟩ (by simp)
    exact ⟨[], seed, before, mechanism, rfl,
      fun exchange h => hissues exchange (by simp [h]), hproof⟩

theorem bootstrapSeeds_gated {bootstrap : Connection → KvClient KvSession}
    (hgated : ∀ connection log outcome, (bootstrap connection).Path log outcome →
      Gated crypto credentials log (∃ session, outcome = .ok session))
    (hopened : ∀ connection log session, (bootstrap connection).Path log (.ok session) →
      session.connection = connection ∧
        Authenticated crypto credentials (requests log) session.capabilities.saslMechanism)
    (hissues : ∀ connection, (bootstrap connection).Issues (KvCommand.On connection.id))
    (h : (bootstrapSeeds tls bootstrap failures seeds).Path log outcome) :
    GatedRequests crypto credentials log ∧
      ∀ session, outcome = .ok session → OpenedBy crypto credentials log session := by
  have hrequestless : GatedRequests crypto credentials [] := by
    intro before connectionId frame reply after hlog
    simp at hlog
  refine bootstrapSeeds_induction (P := fun log outcome => GatedRequests crypto credentials log ∧
    ∀ session, outcome = .ok session → OpenedBy crypto credentials log session)
    (fun _ => ⟨hrequestless, by simp⟩) ?_ ?_ ?_ h
  · intro seed error rest _ hrest
    have hrefused : GatedRequests crypto credentials [⟨.connect seed, .error error⟩] := by
      intro before connectionId frame reply after hlog
      cases before with
      | nil => cases hlog
      | cons exchange before => simp at hlog
    exact ⟨hrefused.append hrest.1,
      fun session hsession => (hrest.2 session hsession).append [⟨.connect seed, .error error⟩]⟩
  · intro seed connection segment error rest _ hsegment hrest
    exact ⟨(GatedRequests.attempt (hgated connection _ _ hsegment)
      ((hissues connection).path hsegment) seed).append hrest.1,
      fun session hsession => (hrest.2 session hsession).append _⟩
  · intro seed connection segment session hsegment
    refine ⟨.attempt (hgated connection _ _ hsegment) ((hissues connection).path hsegment) seed, ?_⟩
    rintro _ ⟨⟩
    obtain ⟨rfl, hproof⟩ := hopened connection _ _ hsegment
    exact ⟨[], seed, segment, rfl, (hissues _).path hsegment, hproof⟩

/-- No request for the bucket or for DCP is sent before the authentication on that connection, and
the connection that is handed out is authenticated. -/
theorem bootstrapConnection_gated
    (h : (bootstrapConnection crypto config clientName connectionName).Path log outcome) :
    GatedRequests crypto config.credentials log ∧
      ∀ session, outcome = .ok session → OpenedBy crypto config.credentials log session := by
  have hrefused : ∀ error : DcpError, GatedRequests crypto config.credentials [] ∧
      ∀ session, Except.error error = .ok session →
        OpenedBy crypto config.credentials [] session := by
    refine fun error => ⟨?_, by simp⟩
    intro before connectionId frame reply after hlog
    simp at hlog
  rcases path_lift_bind.1 h with ⟨_, -, h₁⟩ | ⟨error, -, rfl, rfl⟩
  case inr => exact hrefused error
  rcases path_lift_bind.1 h₁ with ⟨_, -, h₂⟩ | ⟨error, -, rfl, rfl⟩
  case inr => exact hrefused error
  rcases path_lift_bind.1 h₂ with ⟨_, -, h₃⟩ | ⟨error, -, rfl, rfl⟩
  case inr => exact hrefused error
  exact bootstrapSeeds_gated (fun connection _ _ hpath => bootstrapOnConnection_gated hpath)
    (fun connection _ _ hpath => bootstrapOnConnection_proof hpath)
    (fun connection => (bootstrapOnConnection_staged crypto connection config _ _).issues) h₃

def scramPeer : Unit → (command : KvCommand) → command.Reply × Unit
  | _, .fillNonce => (.ok (asBytes "nonce"), ())
  | _, .request _ frame =>
    (.ok (if frame.opcode = Opcode.saslListMechs then
      { grant frame with value := asBytes "SCRAM-SHA256 PLAIN" }
    else if frame.opcode = Opcode.saslAuth then
      { grant frame with status := Status.authContinue, value := ScramSession.sampleFirst }
    else if frame.opcode = Opcode.saslStep then
      { grant frame with value := asBytes "v=YXBlbmNpbA==" }
    else grant frame), ())
  | _, command => grantingPeer () command

def scramConfig : ClientConfig :=
  { sampleClientConfig with credentials := { username := "user", password := "pencil" } }

def scramRun : Result KvSession × KvLog × Unit :=
  (bootstrapConnection ScramSession.sampleCrypto scramConfig "rust-dcp" "rust-dcp-node-1").conduct
    scramPeer ()

theorem bootstrapConnection_gated_scram : ∃ session, scramRun.1 = .ok session ∧
    (requests scramRun.2.1).map (·.1.opcode) =
      [Opcode.hello, Opcode.saslListMechs, Opcode.saslAuth, Opcode.saslStep, Opcode.selectBucket,
        Opcode.dcpOpen] ++ List.replicate 8 Opcode.dcpControl ∧
    GatedRequests ScramSession.sampleCrypto scramConfig.credentials scramRun.2.1 ∧
    ∃ recent, ScramProof ScramSession.sampleCrypto scramConfig.credentials .sha256
      (requests recent) := by
  have hgranted : scramRun.1.toOption.map (·.capabilities.saslMechanism) =
      some (.scram .sha256) := by decide +kernel
  obtain ⟨session, hsession, hmechanism⟩ := Option.map_eq_some_iff.1 hgranted
  have hok := toOption_eq_some.1 hsession
  obtain ⟨hgated, hopened⟩ := bootstrapConnection_gated
    (conduct_path (show _ = (scramRun.1, scramRun.2.1, scramRun.2.2) from rfl))
  obtain ⟨older, seed, recent, -, -, hproof⟩ := hopened session hok
  rw [hmechanism] at hproof
  exact ⟨session, hok, by decide +kernel, hgated, recent, hproof.2⟩

end RustDcp
