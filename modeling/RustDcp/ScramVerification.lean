import RustDcp.Scram

namespace RustDcp
set_option autoImplicit true

/-- Different passwords have different signatures for the same exchange. -/
def ScramCrypto.Distinct (crypto : ScramCrypto) : Prop :=
  ∀ algorithm password password' salt iterations authMessage proof proof' signature,
    crypto.calculateScram algorithm password salt iterations authMessage = .ok (proof, signature) →
    crypto.calculateScram algorithm password' salt iterations authMessage =
      .ok (proof', signature) → password = password'

inductive ScramCall where
  | handleServerFirst (message : Bytes)
  | verifyServerFinal (message : Bytes)

inductive ScramSuccess where
  | serverFirst (message : Bytes)
  | verified
  deriving DecidableEq

/-- A client with the calls that have succeeded on it, the latest one first. -/
structure ScramSession where
  client : ScramClient
  log : List ScramSuccess
  deriving DecidableEq

namespace ScramSession

/-- Calls that fail count too: they may change the client. -/
def step (crypto : ScramCrypto) (s : ScramSession) : ScramCall → Option ScramSession
  | .handleServerFirst message =>
    match s.client.handleServerFirst crypto message with
    | (.ok _, client) => some { client, log := .serverFirst message :: s.log }
    | (.error _, client) => some { s with client }
  | .verifyServerFinal message =>
    match s.client.verifyServerFinal crypto message with
    | (.ok _, client) => some { client, log := .verified :: s.log }
    | (.error _, client) => some { s with client }

/-- No server-first message has been accepted. -/
def Unused (log : List ScramSuccess) : Prop := ∀ message, .serverFirst message ∉ log

/-- The server signature of the exchange that `first` began, for a password. -/
def Signs (crypto : ScramCrypto) (client : ScramClient) (password : String) (first : Bytes)
    (signature : Bytes) : Prop :=
  ∃ hello proof, readServerFirst crypto client.clientNonce first = .ok hello ∧
    crypto.calculateScram client.algorithm (asBytes password) hello.salt hello.iterations
      (hello.authMessage client.clientFirstBare) = .ok (proof, signature)

/-- The signature in the message is the one of the latest exchange, for the password that the
client was made with. -/
def Genuine (crypto : ScramCrypto) (client : ScramClient) (log : List ScramSuccess)
    (message : Bytes) : Prop :=
  ∃ first older signature, log = .serverFirst first :: older ∧
    readServerFinal crypto message = .ok signature ∧
    Signs crypto client client.password first signature

def Remains (client : ScramClient) (log : List ScramSuccess) (password : String) : Prop :=
  (Unused log → password = client.password) ∧ (¬Unused log → password = "")

/-- The expected signature is the one of the latest exchange, for the password at that time. -/
structure Follows (crypto : ScramCrypto) (client : ScramClient) (s : ScramSession) : Prop where
  algorithm : s.client.algorithm = client.algorithm
  clientNonce : s.client.clientNonce = client.clientNonce
  clientFirstBare : s.client.clientFirstBare = client.clientFirstBare
  password : Remains client s.log s.client.password
  expected : ∀ signature, s.client.expectedServerSignature = some signature →
    ∃ first older password, s.log = .serverFirst first :: older ∧ Remains client older password ∧
      Signs crypto client password first signature

variable {crypto : ScramCrypto} {client : ScramClient}

theorem not_unused_serverFirst (message : Bytes) (log : List ScramSuccess) :
    ¬Unused (.serverFirst message :: log) :=
  fun h => h message List.mem_cons_self

theorem unused_verified {log : List ScramSuccess} : Unused (.verified :: log) ↔ Unused log := by
  simp only [Unused, List.mem_cons, reduceCtorEq, false_or]

theorem handleServerFirst_eq
    (h : client.handleServerFirst crypto message = (result, after)) :
    (∃ error, result = .error error ∧ after = client) ∨
      ∃ reply hello proof signature, result = .ok reply ∧
        readServerFirst crypto client.clientNonce message = .ok hello ∧
        crypto.calculateScram client.algorithm (asBytes client.password) hello.salt
          hello.iterations (hello.authMessage client.clientFirstBare) = .ok (proof, signature) ∧
        after = { client with password := "", expectedServerSignature := some signature } := by
  rw [ScramClient.handleServerFirst] at h
  split at h
  · cases h
    exact .inl ⟨_, rfl, rfl⟩
  split at h
  · cases h
    exact .inl ⟨_, rfl, rfl⟩
  next hello hread =>
    split at h
    · cases h
      exact .inl ⟨_, rfl, rfl⟩
    next proof signature hcalculate =>
      cases h
      exact .inr ⟨_, hello, proof, signature, rfl, hread, hcalculate, rfl⟩

theorem verifyServerFinal_eq
    (h : client.verifyServerFinal crypto message = (result, after)) :
    (after = client ∨ after = { client with expectedServerSignature := none }) ∧
      (result = .ok () → ∃ signature, readServerFinal crypto message = .ok signature ∧
        client.expectedServerSignature = some signature ∧
        after = { client with expectedServerSignature := none }) := by
  rw [ScramClient.verifyServerFinal] at h
  split at h
  · cases h
    exact ⟨.inl rfl, nofun⟩
  next signature hread =>
    split at h
    · cases h
      exact ⟨.inl rfl, nofun⟩
    next expected hexpected =>
      split at h
      · cases h
        exact ⟨.inr rfl, nofun⟩
      next hsame =>
        cases h
        refine ⟨.inr rfl, fun _ => ⟨signature, hread, ?_, rfl⟩⟩
        rw [hexpected, not_not.1 hsame]

theorem follows_start (hnone : client.expectedServerSignature = none) :
    Follows crypto client { client, log := [] } where
  algorithm := rfl
  clientNonce := rfl
  clientFirstBare := rfl
  password := ⟨fun _ => rfl, fun hused => absurd (fun _ => List.not_mem_nil) hused⟩
  expected := by
    intro signature hsignature
    rw [hnone] at hsignature
    cases hsignature

theorem step_follows (h : Follows crypto client s) (hstep : step crypto s call = some t) :
    Follows crypto client t := by
  cases call with
  | handleServerFirst message =>
    match hhandle : s.client.handleServerFirst crypto message with
    | (result, after) =>
      rw [step, hhandle] at hstep
      obtain ⟨error, rfl, rfl⟩ | ⟨reply, hello, proof, signature, rfl, hread, hcalculate, rfl⟩ :=
        handleServerFirst_eq hhandle
      · cases hstep
        exact h
      · cases hstep
        refine ⟨h.algorithm, h.clientNonce, h.clientFirstBare, ⟨?_, fun _ => rfl⟩, ?_⟩
        · intro hunused
          exact absurd hunused (not_unused_serverFirst _ _)
        · rintro _ ⟨⟩
          rw [h.clientNonce] at hread
          rw [h.algorithm, h.clientFirstBare] at hcalculate
          exact ⟨message, s.log, s.client.password, rfl, h.password, hello, proof,
            hread, hcalculate⟩
  | verifyServerFinal message =>
    match hverify : s.client.verifyServerFinal crypto message with
    | (.error error, after) =>
      rw [step, hverify] at hstep
      cases hstep
      obtain ⟨rfl | rfl, -⟩ := verifyServerFinal_eq hverify
      · exact h
      · exact ⟨h.algorithm, h.clientNonce, h.clientFirstBare, h.password, nofun⟩
    | (.ok (), after) =>
      rw [step, hverify] at hstep
      cases hstep
      obtain ⟨signature, -, -, rfl⟩ := (verifyServerFinal_eq hverify).2 rfl
      refine ⟨h.algorithm, h.clientNonce, h.clientFirstBare, ?_, nofun⟩
      rw [Remains, unused_verified]
      exact h.password

/-- A signature that is accepted is the one that the client's own password gives as long as the
password was there when the exchange began. -/
theorem verified_genuine_iff (hdistinct : crypto.Distinct)
    (hrun : Machine.run (step crypto)
      { client := ScramClient.withNonce algorithm username password nonce, log := [] }
        calls = some s)
    (hverify : s.client.verifyServerFinal crypto message = (.ok (), after)) :
    ∃ first older, s.log = .serverFirst first :: older ∧
      (Genuine crypto (ScramClient.withNonce algorithm username password nonce) s.log message ↔
        Unused older ∨ password = "") := by
  have hfollows := Machine.run_invariant (fun _ _ _ h hstep => step_follows h hstep)
    (follows_start rfl) hrun
  obtain ⟨signature, hread, hexpected, -⟩ := (verifyServerFinal_eq hverify).2 rfl
  obtain ⟨first, older, used, hlog, ⟨hunused, herased⟩, hsigns⟩ := hfollows.expected _ hexpected
  refine ⟨first, older, hlog, ?_, ?_⟩
  · rintro ⟨first', older', signature', hlog', hread', hello', proof', hhello', hcalculate'⟩
    obtain ⟨hello, proof, hhello, hcalculate⟩ := hsigns
    cases hlog.symm.trans hlog'
    cases hread.symm.trans hread'
    cases hhello.symm.trans hhello'
    by_cases hfirst : Unused older
    · exact .inl hfirst
    · rw [herased hfirst] at hcalculate
      exact .inr (asBytes_injective (hdistinct _ _ _ _ _ _ _ _ _ hcalculate' hcalculate))
  · intro hcondition
    have hused : used = password := by
      by_cases hfirst : Unused older
      · exact hunused hfirst
      · rw [herased hfirst, hcondition.resolve_left hfirst]
    rw [hused] at hsigns
    exact ⟨first, older, signature, hlog, hread, hsigns⟩

def base64Table : List (String × Bytes) :=
  [("YXBlbmNpbA==", asBytes "apencil"), ("YQ==", asBytes "a"), ("b3RoZXI=", asBytes "other"),
    ("c2FsdA==", asBytes "salt"), ("cGVuY2ls", asBytes "pencil")]

/-- Signatures that show the password, so that they are easy to tell apart. -/
def sampleCrypto : ScramCrypto where
  encode bytes := ((base64Table.find? (·.2 = bytes)).map (·.1)).getD ""
  encodeNoPad bytes := if bytes = asBytes "nonce" then "bm9uY2U" else ""
  decode text := ((base64Table.lookup text).map .ok).getD (.error "Invalid padding")
  calculateScram _ password _ _ _ := .ok (password, 0x61 :: password)

theorem sampleCrypto_distinct : sampleCrypto.Distinct := by
  intro algorithm password password' salt iterations authMessage proof proof' signature h h'
  cases h
  cases h'
  rfl

def sampleFirst : Bytes := asBytes "r=bm9uY2U1,s=c2FsdA==,i=4096"

theorem verified_genuine_iff_single :
    ∃ s after, Machine.run (step sampleCrypto)
        { client := ScramClient.withNonce .sha256 "user" "pencil" "bm9uY2U", log := [] }
        [.handleServerFirst sampleFirst] = some s ∧
      s.client.verifyServerFinal sampleCrypto (asBytes "v=YXBlbmNpbA==") = (.ok (), after) ∧
      Genuine sampleCrypto (ScramClient.withNonce .sha256 "user" "pencil" "bm9uY2U") s.log
        (asBytes "v=YXBlbmNpbA==") := by
  have hrun : Machine.run (step sampleCrypto)
      { client := ScramClient.withNonce .sha256 "user" "pencil" "bm9uY2U", log := [] }
      [.handleServerFirst sampleFirst] =
        some { client := { ScramClient.withNonce .sha256 "user" "pencil" "bm9uY2U" with
                 password := "", expectedServerSignature := some (asBytes "apencil") }
               log := [.serverFirst sampleFirst] } := by
    decide +kernel
  have hverify : ScramClient.verifyServerFinal sampleCrypto
      { ScramClient.withNonce .sha256 "user" "pencil" "bm9uY2U" with
        password := "", expectedServerSignature := some (asBytes "apencil") }
      (asBytes "v=YXBlbmNpbA==") =
        (.ok (),
          { ScramClient.withNonce .sha256 "user" "pencil" "bm9uY2U" with password := "" }) := by
    decide +kernel
  obtain ⟨first, older, hlog, hiff⟩ := verified_genuine_iff sampleCrypto_distinct hrun hverify
  cases hlog
  exact ⟨_, _, hrun, hverify, hiff.2 (.inl fun _ => List.not_mem_nil)⟩

/-- After a signature that does not match, the next exchange runs with the erased password, and the
client accepts the signature of the empty one. -/
theorem erased_password_accepted :
    sampleCrypto.Distinct ∧ ∃ s after, Machine.run (step sampleCrypto)
        { client := ScramClient.withNonce .sha256 "user" "pencil" "bm9uY2U", log := [] }
        [.handleServerFirst sampleFirst, .verifyServerFinal (asBytes "v=b3RoZXI="),
          .handleServerFirst sampleFirst] = some s ∧
      s.client.verifyServerFinal sampleCrypto (asBytes "v=YQ==") = (.ok (), after) ∧
      ¬Genuine sampleCrypto (ScramClient.withNonce .sha256 "user" "pencil" "bm9uY2U") s.log
        (asBytes "v=YQ==") := by
  refine ⟨sampleCrypto_distinct,
    { client := { ScramClient.withNonce .sha256 "user" "pencil" "bm9uY2U" with
        password := "", expectedServerSignature := some (asBytes "a") }
      log := [.serverFirst sampleFirst, .serverFirst sampleFirst] },
    { ScramClient.withNonce .sha256 "user" "pencil" "bm9uY2U" with password := "" }, ?_, ?_, ?_⟩
  · decide +kernel
  · decide +kernel
  · rintro ⟨first, older, signature, -, hread, hello, proof, -, hcalculate⟩
    have hsignature : readServerFinal sampleCrypto (asBytes "v=YQ==") = .ok (asBytes "a") := by
      decide +kernel
    cases hsignature.symm.trans hread
    have hsame : (0x61 :: asBytes "pencil") = asBytes "a" :=
      congrArg Prod.snd (Except.ok.inj hcalculate)
    exact absurd hsame (by decide +kernel)

end ScramSession

end RustDcp
