import RustDcp.Bootstrap

namespace RustDcp
set_option autoImplicit true

open Dialogue

abbrev KvLog := List (Exchange KvCommand.Reply)

namespace KvLog

def requests (log : KvLog) : List (Frame × Result Frame) :=
  log.filterMap fun
    | ⟨.request _ frame, reply⟩ => some (frame, reply)
    | _ => none

theorem mem_requests {log : KvLog} {reply : Result Frame}
    (h : ⟨.request connectionId frame, reply⟩ ∈ log) : (frame, reply) ∈ requests log :=
  List.mem_filterMap.2 ⟨_, h, rfl⟩

@[simp] theorem requests_nil : requests [] = [] := rfl

@[simp] theorem requests_request (log : KvLog) (reply : Result Frame) :
    requests (⟨.request connectionId frame, reply⟩ :: log) = (frame, reply) :: requests log := rfl

@[simp] theorem requests_fillNonce (log : KvLog) (reply : KvCommand.Reply .fillNonce) :
    requests (⟨.fillNonce, reply⟩ :: log) = requests log := rfl

@[simp] theorem requests_setCollectionsEnabled (log : KvLog) :
    requests (⟨.setCollectionsEnabled connectionId enabled, reply⟩ :: log) = requests log := rfl

@[simp] theorem requests_setSnappyEnabled (log : KvLog) :
    requests (⟨.setSnappyEnabled connectionId enabled, reply⟩ :: log) = requests log := rfl

@[simp] theorem requests_append (first second : KvLog) :
    requests (first ++ second) = requests first ++ requests second := List.filterMap_append

end KvLog

open KvLog

theorem Connection.path_request {connection : Connection} :
    (connection.request frame).Path log outcome ↔
      log = [⟨.request connection.id frame, outcome⟩] := by
  constructor
  · rintro ⟨reply, rest, rfl, rfl, rfl⟩
    rfl
  · rintro rfl
    exact ⟨outcome, [], rfl, rfl, rfl⟩

theorem path_fillNonce_bind {f : Except String Bytes → KvClient α} :
    (fillNonce >>= f).Path log outcome ↔
      ∃ nonce rest, log = ⟨.fillNonce, nonce⟩ :: rest ∧ (f nonce).Path rest outcome :=
  Iff.rfl

theorem path_connect_bind {f : Result ConnectionId → KvClient α} :
    (connect seed >>= f).Path log outcome ↔
      ∃ reply rest, log = ⟨.connect seed, reply⟩ :: rest ∧ (f reply).Path rest outcome :=
  Iff.rfl

theorem Connection.path_setCollectionsEnabled_bind {connection : Connection}
    {f : Unit → KvClient α} :
    (connection.setCollectionsEnabled enabled >>= f).Path log outcome ↔
      ∃ reply rest, log = ⟨.setCollectionsEnabled connection.id enabled, reply⟩ :: rest ∧
        (f ()).Path rest outcome :=
  Iff.rfl

theorem Connection.path_setSnappyEnabled_bind {connection : Connection} {f : Unit → KvClient α} :
    (connection.setSnappyEnabled enabled >>= f).Path log outcome ↔
      ∃ reply rest, log = ⟨.setSnappyEnabled connection.id enabled, reply⟩ :: rest ∧
        (f ()).Path rest outcome :=
  Iff.rfl

theorem Connection.path_checked {connection : Connection} {check : Frame → Result β}
    {f : Frame → β → KvClient α} :
    (connection.request frame >>= fun response => liftM (check response) >>= f response).Path
        log outcome ↔
      ∃ (reply : Result Frame) (rest : KvLog),
        log = ⟨.request connection.id frame, reply⟩ :: rest ∧
        ((∃ response b, reply = .ok response ∧ check response = .ok b ∧
          (f response b).Path rest outcome) ∨
        ∃ error, reply >>= check = .error error ∧ rest = [] ∧ outcome = .error error) := by
  rw [path_bind]
  simp only [Connection.path_request, path_lift_bind]
  constructor
  · rintro (⟨response, -, rest, rfl, rfl, ⟨b, hcheck, h⟩ | ⟨error, hcheck, rfl, rfl⟩⟩ |
      ⟨error, rfl, rfl⟩)
    · exact ⟨.ok response, rest, rfl, .inl ⟨response, b, rfl, hcheck, h⟩⟩
    · exact ⟨.ok response, [], rfl, .inr ⟨error, hcheck, rfl, rfl⟩⟩
    · exact ⟨.error error, [], rfl, .inr ⟨error, rfl, rfl, rfl⟩⟩
  · rintro ⟨reply, rest, rfl, ⟨response, b, rfl, hcheck, h⟩ | ⟨error, hcheck, rfl, rfl⟩⟩
    · exact .inl ⟨response, _, rest, rfl, rfl, .inl ⟨b, hcheck, h⟩⟩
    · cases reply with
      | error failed =>
        cases hcheck
        exact .inr ⟨error, rfl, rfl⟩
      | ok response => exact .inl ⟨response, _, [], rfl, rfl, .inr ⟨error, hcheck, rfl, rfl⟩⟩

theorem Connection.path_checked_ok {connection : Connection} {check : Frame → Result β}
    {f : Frame → β → KvClient α} :
    (connection.request frame >>= fun response => liftM (check response) >>= f response).Path
        log (.ok a) ↔
      ∃ response b rest, log = ⟨.request connection.id frame, .ok response⟩ :: rest ∧
        check response = .ok b ∧ (f response b).Path rest (.ok a) := by
  rw [Connection.path_checked]
  constructor
  · rintro ⟨reply, rest, rfl, ⟨response, b, rfl, hcheck, h⟩ | ⟨error, -, -, h⟩⟩
    · exact ⟨response, b, rest, rfl, hcheck, h⟩
    · cases h
  · rintro ⟨response, b, rest, rfl, hcheck, h⟩
    exact ⟨.ok response, rest, rfl, .inl ⟨response, b, rfl, hcheck, h⟩⟩

def DcpControlFeature.key : DcpControlFeature → String
  | .streamEndOnClose => "send_stream_end_on_client_close_stream"
  | .changeStreams => "change_streams"
  | .expiryOpcode => "enable_expiry_opcode"
  | .streamId => "enable_stream_id"

def optionalControls : List Bytes :=
  [DcpControlFeature.streamEndOnClose, .changeStreams, .expiryOpcode, .streamId].map
    fun control => asBytes control.key

/-- The statuses with which the handshake goes on after a request: SCRAM continues, and an optional
control may be unknown to the server. -/
def permitted (frame : Frame) : List Status :=
  if frame.opcode = Opcode.saslAuth ∧ frame.key ≠ asBytes SaslMechanism.plain.name then
    [Status.authContinue]
  else if frame.opcode = Opcode.dcpControl ∧ frame.key ∈ optionalControls then
    [Status.success, Status.invalidArguments, Status.unknownCommand, Status.notSupported]
  else [Status.success]

/-- The answer is a response to the same opcode with a status that lets the handshake go on. -/
def Accepted (frame : Frame) (reply : Result Frame) : Prop :=
  ∃ response, reply = .ok response ∧ response.magic.isResponse = true ∧
    response.opcode = frame.opcode ∧ response.status ∈ permitted frame

def handshakeRank (opcode : Opcode) : Nat :=
  [Opcode.hello, Opcode.saslListMechs, Opcode.saslAuth, Opcode.saslStep, Opcode.selectBucket,
    Opcode.dcpOpen, Opcode.dcpControl].idxOf opcode

def KvCommand.On (connectionId : ConnectionId) : KvCommand → Prop
  | .connect _ => False
  | .fillNonce => True
  | .setCollectionsEnabled id _ | .setSnappyEnabled id _ | .request id _ => id = connectionId

/-- The requests of every run have their places between `low` and `high`, in order, and each but the
last was accepted; all of them if the run succeeds. -/
structure Staged (connection : Connection) (low high : Nat) (d : KvClient α) : Prop where
  issues : d.Issues (KvCommand.On connection.id)
  ranked : d.Path log outcome → ∀ x ∈ requests log,
    low ≤ handshakeRank x.1.opcode ∧ handshakeRank x.1.opcode < high
  ordered : d.Path log outcome → (requests log).Pairwise fun x y =>
    handshakeRank x.1.opcode < handshakeRank y.1.opcode ∨
      x.1.opcode = Opcode.dcpControl ∧ y.1.opcode = Opcode.dcpControl
  answered : d.Path log outcome → ∀ x ∈ (requests log).dropLast, Accepted x.1 x.2
  completed : d.Path log (.ok a) → ∀ x ∈ requests log, Accepted x.1 x.2

theorem handshakeRank_control (h : handshakeRank opcode = 6) : opcode = Opcode.dcpControl := by
  have hlt : handshakeRank opcode < 7 := by omega
  have hget := List.getElem_idxOf hlt
  simp only [handshakeRank] at h
  simp only [h] at hget
  exact hget.symm

namespace Staged

variable {connection : Connection}

theorem silent {d : KvClient α} (hissues : d.Issues (KvCommand.On connection.id))
    (h : ∀ log outcome, d.Path log outcome → requests log = []) :
    Staged connection low high d where
  issues := hissues
  ranked hpath := by simp [h _ _ hpath]
  ordered hpath := by simp [h _ _ hpath]
  answered hpath := by simp [h _ _ hpath]
  completed hpath := by simp [h _ _ hpath]

theorem lift (result : Result α) : Staged connection low high (liftM result : KvClient α) :=
  .silent trivial fun _ _ hpath => by rw [(path_lift.1 hpath).1, requests_nil]

theorem pure (a : α) : Staged connection low high (Pure.pure a : KvClient α) := .lift (.ok a)

theorem join {d : KvClient α} {f : α → KvClient β} (hd : Staged connection low mid d)
    (hf : ∀ a, Staged connection mid' high (f a)) (hlow : low ≤ mid') (hhigh : mid ≤ high)
    (hjoin : mid ≤ mid' ∨ mid' = 6 ∧ high = 7 ∧ low = 6 ∧ mid = 7) :
    Staged connection low high (d >>= f) where
  issues := hd.issues.bind fun a => (hf a).issues
  ranked hpath := by
    rcases path_bind.1 hpath with ⟨a, first, second, rfl, hfirst, hsecond⟩ | ⟨error, herror, rfl⟩
    · intro x hx
      rw [requests_append, List.mem_append] at hx
      rcases hx with hx | hx
      · have := hd.ranked hfirst x hx
        omega
      · have := (hf a).ranked hsecond x hx
        omega
    · intro x hx
      have := hd.ranked herror x hx
      omega
  ordered hpath := by
    rcases path_bind.1 hpath with ⟨a, first, second, rfl, hfirst, hsecond⟩ | ⟨error, herror, rfl⟩
    · rw [requests_append, List.pairwise_append]
      refine ⟨hd.ordered hfirst, (hf a).ordered hsecond, ?_⟩
      intro x hx y hy
      have hx := hd.ranked hfirst x hx
      have hy := (hf a).ranked hsecond y hy
      rcases hjoin with hle | ⟨rfl, rfl, rfl, rfl⟩
      · exact .inl (by omega)
      · exact .inr ⟨handshakeRank_control (by omega), handshakeRank_control (by omega)⟩
    · exact hd.ordered herror
  answered hpath := by
    rcases path_bind.1 hpath with ⟨a, first, second, rfl, hfirst, hsecond⟩ | ⟨error, herror, rfl⟩
    · intro x hx
      rw [requests_append] at hx
      by_cases hnil : requests second = []
      · rw [hnil, List.append_nil] at hx
        exact hd.answered hfirst x hx
      · rw [List.dropLast_append_of_ne_nil hnil, List.mem_append] at hx
        rcases hx with hx | hx
        · exact hd.completed hfirst x hx
        · exact (hf a).answered hsecond x hx
    · exact hd.answered herror
  completed hpath := by
    rcases path_bind.1 hpath with ⟨a, first, second, rfl, hfirst, hsecond⟩ | ⟨error, -, h⟩
    · intro x hx
      rw [requests_append, List.mem_append] at hx
      rcases hx with hx | hx
      · exact hd.completed hfirst x hx
      · exact (hf a).completed hsecond x hx
    · cases h

theorem bind {d : KvClient α} {f : α → KvClient β} (hd : Staged connection low mid d)
    (hf : ∀ a, Staged connection mid high (f a)) (hlow : low ≤ mid) (hhigh : mid ≤ high) :
    Staged connection low high (d >>= f) :=
  hd.join hf hlow hhigh (.inl (Nat.le_refl _))

theorem bind_control {d : KvClient α} {f : α → KvClient β} (hd : Staged connection 6 7 d)
    (hf : ∀ a, Staged connection 6 7 (f a)) : Staged connection 6 7 (d >>= f) :=
  hd.join hf (by omega) (by omega) (.inr ⟨rfl, rfl, rfl, rfl⟩)

theorem checked {check : Frame → Result α}
    (hrank : handshakeRank frame.opcode = low)
    (hcheck : ∀ response a, check response = .ok a → Accepted frame (.ok response)) :
    Staged connection low (low + 1)
      (connection.request frame >>= fun response => liftM (check response)) := by
  have hrun : ∀ {log outcome},
      (connection.request frame >>= fun response => liftM (check response)).Path log outcome →
      ∃ reply, requests log = [(frame, reply)] ∧ ∀ a, outcome = .ok a → Accepted frame reply := by
    intro log outcome hpath
    rcases path_bind.1 hpath with ⟨response, first, second, rfl, hfirst, hsecond⟩ | ⟨error, h, rfl⟩
    · obtain ⟨rfl, rfl⟩ := path_lift.1 hsecond
      rw [Connection.path_request] at hfirst
      exact ⟨.ok response, by rw [hfirst]; rfl, fun a ha => hcheck response a ha⟩
    · rw [Connection.path_request] at h
      exact ⟨.error error, by rw [h]; rfl, fun a ha => by cases ha⟩
  refine ⟨⟨rfl, fun reply => ?_⟩, ?_, ?_, ?_, ?_⟩
  · cases reply with
    | error error => trivial
    | ok response => trivial
  · intro log outcome hpath x hx
    obtain ⟨reply, hrequests, -⟩ := hrun hpath
    rw [hrequests, List.mem_singleton] at hx
    subst hx
    dsimp only
    omega
  · intro log outcome hpath
    obtain ⟨reply, hrequests, -⟩ := hrun hpath
    rw [hrequests]
    exact List.pairwise_singleton _ _
  · intro log outcome hpath
    obtain ⟨reply, hrequests, -⟩ := hrun hpath
    simp [hrequests]
  · intro log a hpath x hx
    obtain ⟨reply, hrequests, haccepted⟩ := hrun hpath
    rw [hrequests, List.mem_singleton] at hx
    subst hx
    exact haccepted a rfl

theorem checked_bind {check : Frame → Result β}
    {f : Frame → β → KvClient α} (hrank : handshakeRank frame.opcode = low)
    (hcheck : ∀ response b, check response = .ok b → Accepted frame (.ok response))
    (hf : ∀ response b, Staged connection (low + 1) high (f response b)) (hhigh : low < high) :
    Staged connection low high
      (connection.request frame >>= fun response => liftM (check response) >>= f response) := by
  have hpair :
      (connection.request frame >>= fun response => liftM (check response) >>= f response) =
      (connection.request frame >>= fun response =>
        liftM ((fun b => (response, b)) <$> check response)) >>= fun (response, b) =>
          f response b := by
    rw [Dialogue.bind_assoc]
    apply congrArg (connection.request frame >>= ·)
    funext response
    cases check response with
    | error error => rfl
    | ok b => rfl
  rw [hpair]
  refine (Staged.checked hrank ?_).bind (fun pair => hf pair.1 pair.2) (by omega) hhigh
  intro response pair hpair
  obtain ⟨b, hb, -⟩ := Result.map_eq_ok hpair
  exact hcheck response b hb

end Staged

theorem ensureAuthStatus_eq_ok (h : ensureAuthStatus response opcode status = .ok ()) :
    response.magic.isResponse = true ∧ response.opcode = opcode ∧ response.status = status := by
  obtain ⟨⟨⟩, hopcode, h⟩ := bind_eq_ok.1 h
  rw [ensureAuthOpcode] at hopcode
  split at hopcode
  · rename_i hmatch
    split at h
    · rename_i hstatus
      simp only [Bool.and_eq_true, beq_iff_eq] at hmatch
      exact ⟨hmatch.1, hmatch.2, hstatus⟩
    · cases h
  · cases hopcode

theorem ensureOpcode_eq_ok (h : ensureOpcode response opcode = .ok ()) :
    response.magic.isResponse = true ∧ response.opcode = opcode := by
  rw [ensureOpcode] at h
  split at h
  · cases h
  · rename_i hmatch
    simpa using hmatch

theorem ensureSuccess_eq_ok (h : ensureSuccess response opcode context = .ok ()) :
    response.magic.isResponse = true ∧ response.opcode = opcode ∧
      response.status = Status.success := by
  obtain ⟨⟨⟩, hopcode, h⟩ := bind_eq_ok.1 h
  obtain ⟨hmagic, hopcode⟩ := ensureOpcode_eq_ok hopcode
  split at h
  · rename_i hstatus
    exact ⟨hmagic, hopcode, beq_iff_eq.1 hstatus⟩
  · cases h

theorem controlAccepted_eq_ok (h : controlAccepted key response = .ok accepted) :
    response.magic.isResponse = true ∧ response.opcode = Opcode.dcpControl ∧
      (accepted = true ↔ response.status = Status.success) ∧
      (accepted = false → response.status ∈
        [Status.invalidArguments, Status.unknownCommand, Status.notSupported]) := by
  obtain ⟨⟨⟩, hopcode, h⟩ := bind_eq_ok.1 h
  obtain ⟨hmagic, hopcode⟩ := ensureOpcode_eq_ok hopcode
  refine ⟨hmagic, hopcode, ?_⟩
  split at h
  · rename_i hstatus
    cases h
    exact ⟨iff_of_true rfl (beq_iff_eq.1 hstatus), by simp⟩
  · rename_i hstatus
    split at h
    · rename_i hrefused
      cases h
      refine ⟨iff_of_false (by simp) fun h => hstatus (beq_iff_eq.2 h), fun _ => ?_⟩
      simpa using hrefused
    · cases h

section

variable (crypto : ScramCrypto) (connection : Connection)

theorem ensureAuthStatus_accepted (hsame : frame.opcode = opcode)
    (hpermitted : status ∈ permitted frame)
    (response : Frame) (_ : Unit) (h : ensureAuthStatus response opcode status = .ok ()) :
    Accepted frame (.ok response) := by
  obtain ⟨hmagic, hopcode, hstatus⟩ := ensureAuthStatus_eq_ok h
  exact ⟨response, rfl, hmagic, hopcode.trans hsame.symm, hstatus ▸ hpermitted⟩

theorem permitted_saslAuth_plain (payload : Bytes) :
    permitted (Command.saslAuth SaslMechanism.plain.name payload 0) = [Status.success] := by
  simp [permitted, Command.saslAuth, Frame.request, Opcode.saslAuth, Opcode.dcpControl]

theorem permitted_saslAuth_scram (algorithm : ScramAlgorithm) (payload : Bytes) :
    permitted (Command.saslAuth (SaslMechanism.scram algorithm).name payload 0) =
      [Status.authContinue] := by
  have hname : asBytes (SaslMechanism.scram algorithm).name ≠ asBytes SaslMechanism.plain.name := by
    cases algorithm <;> decide +kernel
  exact if_pos ⟨rfl, hname⟩

theorem permitted_required (hkey : asBytes key ∉ optionalControls) (value : String) :
    permitted (Command.dcpControl key value 0) = [Status.success] := by
  rw [permitted, if_neg (fun h => absurd h.1 (by decide : Opcode.dcpControl ≠ Opcode.saslAuth)),
    if_neg fun h => hkey h.2]

theorem permitted_optional (control : DcpControlFeature) (value : String) :
    permitted (Command.dcpControl control.key value 0) =
      [Status.success, Status.invalidArguments, Status.unknownCommand, Status.notSupported] := by
  have hkey : asBytes control.key ∈ optionalControls := by
    cases control <;> simp [optionalControls]
  rw [permitted, if_neg (fun h => absurd h.1 (by decide : Opcode.dcpControl ≠ Opcode.saslAuth)),
    if_pos ⟨rfl, hkey⟩]

theorem authenticatePlain_staged (credentials : Credentials) :
    Staged connection 2 3 (authenticatePlain connection credentials) :=
  .checked rfl (ensureAuthStatus_accepted rfl (by simp [permitted_saslAuth_plain]))

theorem fillNonce_staged : Staged connection low high fillNonce := by
  refine .silent ⟨trivial, fun _ => trivial⟩ ?_
  rintro log outcome ⟨nonce, rest, rfl, rfl, -⟩
  rfl

theorem authenticateScram_staged (credentials : Credentials) (algorithm : ScramAlgorithm) :
    Staged connection 2 4 (authenticateScram crypto connection credentials algorithm) := by
  refine (fillNonce_staged connection).bind (fun nonce => ?_) (Nat.le_refl 2) (by omega)
  refine (Staged.lift _).bind (fun client => ?_) (Nat.le_refl 2) (by omega)
  refine .checked_bind rfl (ensureAuthStatus_accepted rfl (by simp [permitted_saslAuth_scram]))
    (fun first _ => ?_) (by omega)
  refine (Staged.lift _).bind (fun message => ?_) (Nat.le_refl 3) (by omega)
  exact .checked_bind rfl (ensureAuthStatus_accepted rfl List.mem_cons_self) (fun last _ => .lift _)
    (by omega)

theorem authenticate_staged (credentials : Credentials) :
    Staged connection 1 4 (authenticate crypto connection credentials) := by
  refine .checked_bind rfl (ensureAuthStatus_accepted rfl List.mem_cons_self)
    (fun mechanisms _ => ?_) (by omega)
  refine (Staged.lift _).bind (fun mechanism => ?_) (Nat.le_refl 2) (by omega)
  cases mechanism with
  | plain =>
    exact (authenticatePlain_staged connection credentials).bind (fun _ => .pure _) (by omega)
      (by omega)
  | scram algorithm =>
    exact (authenticateScram_staged crypto connection credentials algorithm).bind
      (fun _ => .pure _) (by omega) (Nat.le_refl 4)

theorem settings_staged {d : KvClient Unit}
    (h : d = connection.setCollectionsEnabled enabled ∨ d = connection.setSnappyEnabled enabled) :
    Staged connection low high d := by
  rcases h with rfl | rfl
  · refine .silent ⟨rfl, fun _ => trivial⟩ ?_
    rintro log outcome ⟨reply, rest, rfl, rfl, -⟩
    rfl
  · refine .silent ⟨rfl, fun _ => trivial⟩ ?_
    rintro log outcome ⟨reply, rest, rfl, rfl, -⟩
    rfl

theorem success_accepted {context : String} (hsame : frame.opcode = opcode)
    (hpermitted : permitted frame = [Status.success]) (response : Frame) (_ : Unit)
    (h : ensureSuccess response opcode context = .ok ()) : Accepted frame (.ok response) := by
  obtain ⟨hmagic, hopcode, hstatus⟩ := ensureSuccess_eq_ok h
  exact ⟨response, rfl, hmagic, hopcode.trans hsame.symm, by simp [hpermitted, hstatus]⟩

theorem negotiate_staged (config : ClientConfig) (clientName : String) :
    Staged connection 0 4 (negotiate crypto connection config clientName) := by
  refine (Staged.lift _).bind (fun _ => ?_) (Nat.le_refl 0) (by omega)
  refine (Staged.lift _).bind (fun _ => ?_) (Nat.le_refl 0) (by omega)
  refine .checked_bind rfl (success_accepted rfl rfl) (fun response _ => ?_) (by omega)
  refine (Staged.lift _).bind (fun helloFeatures => ?_) (Nat.le_refl 1) (by omega)
  refine (settings_staged connection (.inl rfl)).bind (fun _ => ?_) (Nat.le_refl 1) (by omega)
  refine (settings_staged connection (.inr rfl)).bind (fun _ => ?_) (Nat.le_refl 1) (by omega)
  exact (authenticate_staged crypto connection _).bind (fun _ => .pure _) (by omega) (Nat.le_refl 4)

theorem bootstrapKvOnConnection_staged (config : ClientConfig) (clientName : String) :
    Staged connection 0 5 (bootstrapKvOnConnection crypto connection config clientName) := by
  refine (negotiate_staged crypto connection config clientName).bind (fun _ => ?_) (by omega)
    (by omega)
  exact .checked_bind rfl (success_accepted rfl rfl) (fun _ _ => .pure _) (by omega)

theorem controlRequired_staged (hkey : asBytes key ∉ optionalControls) (value : String) :
    Staged connection 6 7 (controlRequired connection key value) :=
  .checked rfl (success_accepted rfl (permitted_required hkey value))

theorem controlOptional_staged (control : DcpControlFeature) (value : String) :
    Staged connection 6 7 (controlOptional connection control.key value) := by
  refine .checked rfl ?_
  intro response accepted h
  obtain ⟨hmagic, hopcode, haccepted, hrefused⟩ := controlAccepted_eq_ok h
  refine ⟨response, rfl, hmagic, hopcode, ?_⟩
  rw [permitted_optional]
  cases accepted with
  | true => simp [haccepted.1 rfl]
  | false => exact List.mem_cons_of_mem _ (hrefused rfl)

theorem controlIf_staged (condition : Bool) (control : DcpControlFeature) (value : String) :
    Staged connection 6 7 (controlIf condition connection control.key value) := by
  rw [controlIf]
  split
  · exact controlOptional_staged connection control value
  · exact .pure _

theorem negotiateControls_staged (config : ClientConfig) (helloFeatures : Finset HelloFeature) :
    Staged connection 6 7 (negotiateControls connection config helloFeatures) := by
  refine (controlRequired_staged connection (by decide +kernel) _).bind_control fun _ => ?_
  refine (controlRequired_staged connection (by decide +kernel) _).bind_control fun _ => ?_
  refine (controlRequired_staged connection (by decide +kernel) _).bind_control fun _ => ?_
  refine (controlIf_staged connection _ .changeStreams _).bind_control fun changeStreams => ?_
  refine (controlOptional_staged connection .expiryOpcode _).bind_control fun expiryOpcode => ?_
  refine (controlIf_staged connection _ .streamId _).bind_control fun streamId => ?_
  refine (controlRequired_staged connection (by decide +kernel) _).bind_control fun _ => ?_
  exact (controlOptional_staged connection .streamEndOnClose _).bind_control fun _ => .pure _

theorem bootstrapOnConnection_staged (config : ClientConfig) (clientName connectionName : String) :
    Staged connection 0 7
      (bootstrapOnConnection crypto connection config clientName connectionName) := by
  refine (Staged.lift _).bind (fun _ => ?_) (Nat.le_refl 0) (by omega)
  refine (bootstrapKvOnConnection_staged crypto connection config clientName).bind (fun kv => ?_)
    (by omega) (by omega)
  refine .checked_bind rfl (success_accepted rfl rfl) (fun response _ => ?_) (by omega)
  exact (negotiateControls_staged connection config _).bind (fun _ => .pure _) (by omega) (by omega)

end

theorem bootstrapSeeds_induction {bootstrap : Connection → KvClient KvSession}
    {P : KvLog → Result KvSession → Prop} (hexhausted : ∀ error, P [] (.error error))
    (hrefused : ∀ seed error rest outcome, P rest outcome →
      P (⟨.connect seed, .error error⟩ :: rest) outcome)
    (hfailed : ∀ seed connection segment error rest outcome,
      (bootstrap connection).Path segment (.error error) → P rest outcome →
      P (⟨.connect seed, .ok connection.id⟩ :: segment ++ rest) outcome)
    (hopened : ∀ seed connection segment session,
      (bootstrap connection).Path segment (.ok session) →
      P (⟨.connect seed, .ok connection.id⟩ :: segment) (.ok session))
    (h : (bootstrapSeeds tls bootstrap failures seeds).Path log outcome) : P log outcome := by
  induction seeds generalizing failures log with
  | nil =>
    obtain ⟨rfl, rfl⟩ := path_done.1 h
    exact hexhausted _
  | cons seed seeds ih =>
    obtain ⟨reply, rest, rfl, hrun⟩ := path_connect_bind.1 h
    cases reply with
    | error error => exact hrefused seed error rest outcome (ih hrun)
    | ok id =>
      rcases path_bind.1 hrun with
        ⟨result, segment, rest, rfl, hsegment, hrest⟩ | ⟨error, herror, -⟩
      · obtain ⟨result', hsegment, hsame⟩ := path_attempt.1 hsegment
        cases hsame
        cases result with
        | ok session =>
          obtain ⟨rfl, rfl⟩ := path_pure.1 hrest
          rw [List.append_nil]
          exact hopened seed { id, peer := seed.withDefaultKvPort tls } segment session hsegment
        | error error =>
          exact hfailed seed { id, peer := seed.withDefaultKvPort tls } segment error rest outcome
            hsegment (ih hrest)
      · obtain ⟨result, -, hsame⟩ := path_attempt.1 herror
        cases hsame

theorem controlRequired_path (h : (controlRequired connection key value).Path log (.ok ())) :
    ∃ response, log =
      [⟨.request connection.id (Command.dcpControl key value 0), .ok response⟩] := by
  obtain ⟨response, first, second, rfl, hfirst, hsecond⟩ := path_bind_ok.1 h
  obtain ⟨rfl, -⟩ := path_lift.1 hsecond
  exact ⟨response, by rw [Connection.path_request.1 hfirst]; rfl⟩

theorem controlOptional_path
    (h : (controlOptional connection key value).Path log (.ok accepted)) :
    ∃ response, log =
        [⟨.request connection.id (Command.dcpControl key value 0), .ok response⟩] ∧
      (accepted = true ↔ response.status = Status.success) := by
  obtain ⟨response, first, second, rfl, hfirst, hsecond⟩ := path_bind_ok.1 h
  obtain ⟨rfl, haccepted⟩ := path_lift.1 hsecond
  exact ⟨response, by rw [Connection.path_request.1 hfirst]; rfl,
    (controlAccepted_eq_ok haccepted.symm).2.2.1⟩

theorem controlIf_path
    (h : (controlIf condition connection key value).Path log (.ok accepted)) :
    condition = false ∧ log = [] ∧ accepted = false ∨
      condition = true ∧ ∃ response, log =
          [⟨.request connection.id (Command.dcpControl key value 0), .ok response⟩] ∧
        (accepted = true ↔ response.status = Status.success) := by
  rw [controlIf] at h
  split at h
  · rename_i hcondition
    exact .inr ⟨hcondition, controlOptional_path h⟩
  · rename_i hcondition
    obtain ⟨rfl, haccepted⟩ := path_pure.1 h
    cases haccepted
    exact .inl ⟨Bool.eq_false_iff.2 hcondition, rfl, rfl⟩

theorem controlIf_requests
    (h : (controlIf condition connection key value).Path log (.ok accepted)) :
    (requests log).map Prod.fst = if condition then [Command.dcpControl key value 0] else [] := by
  rcases controlIf_path h with ⟨rfl, rfl, -⟩ | ⟨rfl, response, rfl, -⟩
  · rfl
  · rfl

def controlRequests (config : ClientConfig) (helloFeatures : Finset HelloFeature) : List Frame :=
  [Command.dcpControl "enable_noop" "true" 0,
    Command.dcpControl "set_noop_interval" (durationSeconds config.flowControl.noopInterval) 0,
    Command.dcpControl "set_priority" (priorityName config.priority) 0] ++
  (if config.disableChangeStreams then [] else [Command.dcpControl "change_streams" "true" 0]) ++
  [Command.dcpControl "enable_expiry_opcode" "true" 0] ++
  (if .collections ∈ helloFeatures then [Command.dcpControl "enable_stream_id" "true" 0] else []) ++
  [Command.dcpControl "connection_buffer_size"
      (toString config.flowControl.connectionBufferSize) 0,
    Command.dcpControl "send_stream_end_on_client_close_stream" "true" 0]

/-- The requests of an authentication. -/
inductive SaslRequests (crypto : ScramCrypto) (credentials : Credentials) :
    SaslMechanism → List Frame → Prop where
  | plain : SaslRequests crypto credentials .plain
      [Command.saslAuth SaslMechanism.plain.name credentials.plainPayload 0]
  | scram (hclient : ScramClient.new crypto algorithm credentials.username credentials.password
        nonce = .ok client)
      (hmessage : (client.handleServerFirst crypto first).1 = .ok message) :
      SaslRequests crypto credentials (.scram algorithm)
        [Command.saslAuth (SaslMechanism.scram algorithm).name client.start 0,
          Command.saslStep (SaslMechanism.scram algorithm).name message 0]

theorem negotiateControls_requests
    (h : (negotiateControls connection config helloFeatures).Path log (.ok controls)) :
    (requests log).map Prod.fst = controlRequests config helloFeatures := by
  obtain ⟨_, _, _, rfl, noopRun, h₁⟩ := path_bind_ok.1 h
  obtain ⟨_, _, _, rfl, intervalRun, h₂⟩ := path_bind_ok.1 h₁
  obtain ⟨_, _, _, rfl, priorityRun, h₃⟩ := path_bind_ok.1 h₂
  obtain ⟨changeStreams, _, _, rfl, changeRun, h₄⟩ := path_bind_ok.1 h₃
  obtain ⟨expiryOpcode, _, _, rfl, expiryRun, h₅⟩ := path_bind_ok.1 h₄
  obtain ⟨streamId, _, _, rfl, streamRun, h₆⟩ := path_bind_ok.1 h₅
  obtain ⟨_, _, _, rfl, bufferRun, h₇⟩ := path_bind_ok.1 h₆
  obtain ⟨streamEnd, _, _, rfl, endRun, h₈⟩ := path_bind_ok.1 h₇
  obtain ⟨rfl, -⟩ := path_pure.1 h₈
  obtain ⟨noop, rfl⟩ := controlRequired_path noopRun
  obtain ⟨interval, rfl⟩ := controlRequired_path intervalRun
  obtain ⟨priority, rfl⟩ := controlRequired_path priorityRun
  obtain ⟨expiry, rfl, -⟩ := controlOptional_path expiryRun
  obtain ⟨buffer, rfl⟩ := controlRequired_path bufferRun
  obtain ⟨closing, rfl, -⟩ := controlOptional_path endRun
  have hchange := controlIf_requests changeRun
  have hstream := controlIf_requests streamRun
  cases hdisabled : config.disableChangeStreams <;>
    simp [controlRequests, hchange, hstream, hdisabled]

theorem authenticate_requests
    (h : (authenticate crypto connection credentials).Path log (.ok mechanism)) :
    ∃ sasl, SaslRequests crypto credentials mechanism sasl ∧
      (requests log).map Prod.fst = Command.saslListMechanisms 0 :: sasl := by
  obtain ⟨list, _, rest, rfl, -, h₁⟩ := Connection.path_checked_ok.1 h
  obtain ⟨selected, -, h₂⟩ := path_lift_bind_ok.1 h₁
  cases selected with
  | plain =>
    obtain ⟨_, first, _, rfl, hfirst, hpure⟩ := path_bind_ok.1 h₂
    obtain ⟨rfl, hsame⟩ := path_pure.1 hpure
    cases hsame
    obtain ⟨response, _, _, rfl, hrequest, hcheck⟩ := path_bind_ok.1 hfirst
    obtain ⟨rfl, -⟩ := path_lift.1 hcheck
    cases Connection.path_request.1 hrequest
    exact ⟨_, .plain, by simp⟩
  | scram algorithm =>
    obtain ⟨_, first, _, rfl, hfirst, hpure⟩ := path_bind_ok.1 h₂
    obtain ⟨rfl, hsame⟩ := path_pure.1 hpure
    cases hsame
    obtain ⟨nonce, _, rfl, h₃⟩ := path_fillNonce_bind.1 hfirst
    obtain ⟨client, hclient, h₄⟩ := path_lift_bind_ok.1 h₃
    obtain ⟨response, _, _, rfl, -, h₅⟩ := Connection.path_checked_ok.1 h₄
    obtain ⟨message, hmessage, h₆⟩ := path_lift_bind_ok.1 h₅
    obtain ⟨last, _, _, rfl, -, h₇⟩ := Connection.path_checked_ok.1 h₆
    obtain ⟨rfl, -⟩ := path_lift.1 h₇
    exact ⟨_, .scram hclient hmessage, by simp⟩

theorem negotiate_requests
    (h : (negotiate crypto connection config clientName).Path log (.ok negotiated)) :
    ∃ sasl, SaslRequests crypto config.credentials negotiated.2 sasl ∧
      (requests log).map Prod.fst = Command.hello clientName requestedHelloFeatures 0 ::
        Command.saslListMechanisms 0 :: sasl := by
  obtain ⟨_, -, h₁⟩ := path_lift_bind_ok.1 h
  obtain ⟨_, -, h₂⟩ := path_lift_bind_ok.1 h₁
  obtain ⟨response, _, rest, rfl, -, h₃⟩ := Connection.path_checked_ok.1 h₂
  obtain ⟨helloFeatures, -, h₄⟩ := path_lift_bind_ok.1 h₃
  obtain ⟨_, rest, rfl, h₅⟩ := Connection.path_setCollectionsEnabled_bind.1 h₄
  obtain ⟨_, rest, rfl, h₆⟩ := Connection.path_setSnappyEnabled_bind.1 h₅
  obtain ⟨mechanism, first, second, rfl, hfirst, hsecond⟩ := path_bind_ok.1 h₆
  obtain ⟨rfl, hsame⟩ := path_pure.1 hsecond
  cases hsame
  obtain ⟨sasl, hsasl, hrequests⟩ := authenticate_requests hfirst
  exact ⟨sasl, hsasl, by simp [hrequests]⟩

theorem bootstrapOnConnection_requests
    (h : (bootstrapOnConnection crypto connection config clientName connectionName).Path
      log (.ok session)) :
    ∃ sasl, SaslRequests crypto config.credentials session.capabilities.saslMechanism sasl ∧
      (requests log).map Prod.fst =
        [Command.hello clientName requestedHelloFeatures 0, Command.saslListMechanisms 0] ++ sasl ++
        [Command.selectBucket config.bucket 0, Command.dcpOpen connectionName
          (openFlags session.capabilities.helloFeatures) 0] ++
        controlRequests config session.capabilities.helloFeatures := by
  obtain ⟨_, -, h₁⟩ := path_lift_bind_ok.1 h
  obtain ⟨kv, kvLog, _, rfl, kvRun, h₂⟩ := path_bind_ok.1 h₁
  obtain ⟨response, _, _, rfl, -, h₃⟩ := Connection.path_checked_ok.1 h₂
  obtain ⟨controls, controlLog, _, rfl, controlRun, hpure⟩ := path_bind_ok.1 h₃
  obtain ⟨rfl, hsession⟩ := path_pure.1 hpure
  obtain rfl := Except.ok.inj hsession
  obtain ⟨negotiated, first, _, rfl, negotiation, h₄⟩ := path_bind_ok.1 kvRun
  obtain ⟨_, _, _, rfl, -, hpure⟩ := Connection.path_checked_ok.1 h₄
  obtain ⟨rfl, hkv⟩ := path_pure.1 hpure
  obtain rfl := Except.ok.inj hkv
  obtain ⟨sasl, hsasl, hnegotiated⟩ := negotiate_requests negotiation
  exact ⟨sasl, hsasl, by simp [hnegotiated, negotiateControls_requests controlRun]⟩

/-- The requests of a handshake are sent in its order, one at a time: each but the last was
accepted, and a connection is handed out when the whole handshake was. -/
theorem bootstrapOnConnection_in_order
    (h : (bootstrapOnConnection crypto connection config clientName connectionName).Path
      log outcome) :
    (∀ x ∈ requests log, handshakeRank x.1.opcode < 7) ∧
    ((requests log).Pairwise fun x y => handshakeRank x.1.opcode < handshakeRank y.1.opcode ∨
      x.1.opcode = Opcode.dcpControl ∧ y.1.opcode = Opcode.dcpControl) ∧
    (∀ x ∈ (requests log).dropLast, Accepted x.1 x.2) ∧
    (∀ session, outcome = .ok session → (∀ x ∈ requests log, Accepted x.1 x.2) ∧
      ∃ sasl, SaslRequests crypto config.credentials session.capabilities.saslMechanism sasl ∧
        (requests log).map Prod.fst =
          [Command.hello clientName requestedHelloFeatures 0, Command.saslListMechanisms 0] ++
          sasl ++ [Command.selectBucket config.bucket 0, Command.dcpOpen connectionName
            (openFlags session.capabilities.helloFeatures) 0] ++
          controlRequests config session.capabilities.helloFeatures) := by
  have hstaged :=
    bootstrapOnConnection_staged crypto connection config clientName connectionName
  refine ⟨fun x hx => (hstaged.ranked h x hx).2, hstaged.ordered h, hstaged.answered h, ?_⟩
  rintro session rfl
  exact ⟨hstaged.completed h, bootstrapOnConnection_requests h⟩

/-- A server that grants what it is asked for, with PLAIN as its only mechanism. -/
def grant (frame : Frame) : Frame :=
  { Frame.response frame.opcode Status.success with
    value :=
      if frame.opcode = Opcode.hello then frame.value
      else if frame.opcode = Opcode.saslListMechs then asBytes "PLAIN"
      else [] }

def grantingPeer : Unit → (command : KvCommand) → command.Reply × Unit
  | _, .connect _ => (.ok 0, ())
  | _, .fillNonce => (.ok [], ())
  | _, .setCollectionsEnabled _ _ => ((), ())
  | _, .setSnappyEnabled _ _ => ((), ())
  | _, .request _ frame => (.ok (grant frame), ())

def sampleClientConfig : ClientConfig where
  seeds := [⟨"localhost"⟩]
  credentials := { username := "user", password := "secret" }
  bucket := "travel"
  collections := { scope := "_default", collections := ["_default"] }
  flowControl := {
    connectionBufferSize := 1024
    ackRatioValid := true
    belowTarget := fun _ => false
    noopInterval := 10 ^ 9
    deadConnectionTimeout := 10 ^ 10 }
  checkpoint := { mode := .manual, timeout := 1 }
  rollbackMitigation :=
    { enabled := false, pollInterval := 0, requestTimeout := 0, maximumStall := 0 }
  priority := .medium
  disableChangeStreams := false
  connectTimeout := 1
  tls := { enabled := false, serverName := none }
  network := .auto
  healthCheck := { enabled := false, interval := 0, timeout := 0 }

def noCrypto : ScramCrypto where
  encode _ := ""
  encodeNoPad _ := ""
  decode _ := .error ""
  calculateScram _ _ _ _ _ := .error .cancelled

def grantedRun : Result KvSession × KvLog × Unit :=
  (bootstrapOnConnection noCrypto { id := 0, peer := "localhost:11210" } sampleClientConfig
    "rust-dcp" "rust-dcp-node-1").conduct grantingPeer ()

theorem grantedRun_path : (bootstrapOnConnection noCrypto { id := 0, peer := "localhost:11210" }
    sampleClientConfig "rust-dcp" "rust-dcp-node-1").Path grantedRun.2.1 grantedRun.1 :=
  conduct_path rfl

theorem bootstrapOnConnection_in_order_granted : ∃ session, grantedRun.1 = .ok session ∧
    session.capabilities.saslMechanism = .plain ∧
    (∀ x ∈ requests grantedRun.2.1, Accepted x.1 x.2) ∧
    (requests grantedRun.2.1).map (·.1.opcode) =
      [Opcode.hello, Opcode.saslListMechs, Opcode.saslAuth, Opcode.selectBucket, Opcode.dcpOpen] ++
        List.replicate 8 Opcode.dcpControl := by
  have hgranted : grantedRun.1.toOption.map (·.capabilities.saslMechanism) = some .plain := by
    decide +kernel
  obtain ⟨session, hsession, hmechanism⟩ := Option.map_eq_some_iff.1 hgranted
  have hok := toOption_eq_some.1 hsession
  exact ⟨session, hok, hmechanism,
    ((bootstrapOnConnection_in_order grantedRun_path).2.2.2 session hok).1, by decide +kernel⟩

end RustDcp
