import RustDcp.RequestBatch

namespace RustDcp.KvConnection
set_option autoImplicit true

inductive Call where
  | request (frame : Frame)
  | requestBatch (requests : List Frame)
  | receiveFrame

/-- What a call returns. `none` is a call that does not return: it waits for the peer, or the
allocation of its opaques does not end. -/
def perform (self : KvConnection) : Call → Option (Result (List Frame) × KvConnection)
  | .request frame =>
    let (result, self) := self.request frame
    some (result.map ([·]), self)
  | .requestBatch requests => self.requestBatch requests
  | .receiveFrame => self.receiveFrame.map fun (result, self) => (result.map ([·]), self)

structure Session where
  connection : KvConnection
  log : List (Call × Result (List Frame))

namespace Session

def step (s : Session) (call : Call) : Option Session :=
  match s.connection.perform call with
  | none => none
  | some (.error (.timeout _), _) => none
  | some (result, connection) => some { connection, log := s.log ++ [(call, result)] }

def returned (s : Session) : List Frame :=
  s.log.flatMap fun (_, result) => result.toOption.getD []

/-- The frames that `receive_frame` has returned. -/
def received (s : Session) : List Frame :=
  s.log.flatMap fun
    | (.receiveFrame, result) => result.toOption.getD []
    | _ => []

end Session

theorem awaitResponse_spec (opaqueId : UInt32) (timeout : Nat) (pending unread : List Frame) :
    (∃ response before rest, unread = before ++ response :: rest ∧
        unread.find? (answers opaqueId) = some response ∧
        awaitResponse opaqueId timeout pending (unread.map .ok) =
          (.ok response, pending ++ before, rest.map .ok)) ∨
      unread.find? (answers opaqueId) = none ∧
        awaitResponse opaqueId timeout pending (unread.map .ok) =
          (.error (.timeout timeout), pending ++ unread, []) := by
  induction unread generalizing pending with
  | nil =>
    right
    rw [List.append_nil]
    exact ⟨rfl, rfl⟩
  | cons frame unread ih =>
    rw [List.map_cons, awaitResponse, ← answers]
    by_cases hanswers : answers opaqueId frame = true
    · rw [if_pos hanswers, List.find?_cons_of_pos hanswers]
      left
      exact ⟨frame, [], unread, rfl, rfl, by rw [List.append_nil]⟩
    · rw [if_neg hanswers, List.find?_cons_of_neg hanswers]
      have hrest := ih (pending ++ [frame])
      simp only [List.append_assoc, List.singleton_append] at hrest
      apply hrest.imp_left
      rintro ⟨response, before, rest, rfl, hfind, hloop⟩
      exact ⟨response, frame :: before, rest, rfl, hfind, hloop⟩

theorem requestOpaque_spec {self : KvConnection} (hnext : self.nextOpaque ≠ 0) (frame : Frame) :
    ∃ opaqueId next, (if frame.opaqueId = 0 then self.allocateOpaque else (frame.opaqueId, self)) =
        (opaqueId, { self with nextOpaque := next }) ∧ next ≠ 0 ∧
      Assigned frame { frame with opaqueId } := by
  by_cases hunset : frame.opaqueId = 0
  · rw [if_pos hunset]
    exact ⟨_, _, rfl, opaqueAt_ne_zero hnext 1, hnext, rfl, fun hset => absurd hunset hset⟩
  · rw [if_neg hunset]
    exact ⟨_, _, rfl, hnext, hunset, rfl, fun _ => rfl⟩

theorem request_spec {self : KvConnection} (hinbound : self.inbound = unread.map .ok)
    (hnext : self.nextOpaque ≠ 0) (h : self.request frame = (result, after)) :
    ∃ request, Assigned frame request ∧ Sends self [request] after ∧
      ((∃ response, result = .ok response ∧ Exchanges self unread [response] after ∧
          after.sent = self.sent ++ [request] ∧
          unread.find? (answers request.opaqueId) = some response) ∨
        ∃ error, result = .error error ∧ Exchanges self unread [] after ∧
          (self.fault ≠ none ∨ unread.find? (answers request.opaqueId) = none)) := by
  obtain ⟨opaqueId, next, hopaqueId, hnext', hassigned⟩ := requestOpaque_spec hnext frame
  rw [request, hopaqueId] at h
  dsimp only at h
  refine ⟨_, hassigned, ?_⟩
  match hsend : sendFrame { self with nextOpaque := next } { frame with opaqueId } with
  | (.error error, failed) =>
    rw [hsend] at h
    cases h
    obtain ⟨fault, -, ⟨hok, -⟩ | ⟨hfault, -, rfl⟩⟩ := sendFrame_eq hsend
    · cases hok
    · exact ⟨⟨[], List.nil_prefix, (List.append_nil _).symm, fun hnone => absurd hnone hfault⟩,
        .inr ⟨error, rfl, exchanges_nothing hinbound rfl hnext', .inl hfault⟩⟩
  | (.ok (), flushed) =>
    rw [hsend] at h
    obtain ⟨fault, -, ⟨-, rfl⟩ | ⟨-, ⟨error, herror⟩, -⟩⟩ := sendFrame_eq hsend
    case inr => cases herror
    dsimp only at h
    rw [hinbound] at h
    obtain ⟨response, before, rest, rfl, hfind, hloop⟩ | ⟨hnone, hloop⟩ :=
      awaitResponse_spec opaqueId self.requestTimeout self.pending unread
    · rw [hloop] at h
      cases h
      refine ⟨⟨_, List.prefix_rfl, rfl, fun _ => rfl⟩, .inl ⟨response, rfl, ⟨before ++ [response],
        rest, before, ?_, rfl, rfl, List.sublist_append_left _ _,
        (List.perm_append_singleton _ _).symm, hnext'⟩, rfl, hfind⟩⟩
      rw [List.append_cons]
    · rw [hloop] at h
      cases h
      exact ⟨⟨_, List.prefix_rfl, rfl, fun _ => rfl⟩, .inr ⟨_, rfl, ⟨unread, [], unread,
        (List.append_nil _).symm, rfl, rfl, .refl _, .refl _, hnext'⟩, .inr hnone⟩⟩

theorem request_corresponds {self : KvConnection} (hinbound : self.inbound = unread.map .ok)
    (hnext : self.nextOpaque ≠ 0) (h : self.request frame = (result, after)) :
    Corresponds self unread [frame] (result.map ([·])) after := by
  obtain ⟨request, hassigned, hsends, hcases⟩ := request_spec hinbound hnext h
  refine ⟨[request], .cons hassigned .nil, List.nodup_singleton _, hsends, ?_, ?_⟩
  · intro responses hok
    obtain ⟨response, rfl, -, hsent, hfind⟩ | ⟨_, rfl, -⟩ := hcases
    · cases hok
      exact ⟨hsent, .cons hfind .nil⟩
    · cases hok
  · intro hfault hresponses
    obtain ⟨response, rfl, -⟩ | ⟨_, -, -, hfault' | hnone⟩ := hcases
    · exact ⟨[response], rfl⟩
    · exact absurd hfault hfault'
    · obtain ⟨response, hresponse, hanswers⟩ := hresponses request List.mem_cons_self
      exact absurd hanswers (List.find?_eq_none.1 hnone response hresponse)

theorem receiveFrame_spec {self : KvConnection} (hinbound : self.inbound = unread.map .ok)
    (h : self.receiveFrame = some (result, after)) :
    ∃ frame rest, result = .ok frame ∧ after.inbound = rest.map .ok ∧
      after.nextOpaque = self.nextOpaque ∧
      self.pending ++ unread = frame :: (after.pending ++ rest) := by
  rw [receiveFrame] at h
  cases hpending : self.pending with
  | cons frame pending =>
    rw [hpending] at h
    cases h
    exact ⟨frame, unread, rfl, hinbound, rfl, rfl⟩
  | nil =>
    rw [hpending, hinbound] at h
    cases unread with
    | nil => cases h
    | cons frame rest =>
      cases h
      exact ⟨frame, rest, rfl, rfl, rfl, rfl⟩

theorem perform_exchanges {self : KvConnection} (hinbound : self.inbound = unread.map .ok)
    (hnext : self.nextOpaque ≠ 0) (hcall : call ≠ .receiveFrame)
    (h : self.perform call = some (result, after))
    (htimeout : ∀ timeout, result ≠ .error (.timeout timeout)) :
    Exchanges self unread (result.toOption.getD []) after := by
  cases call with
  | request frame =>
    match hrequest : self.request frame with
    | (result', after') =>
      rw [perform, hrequest] at h
      cases h
      obtain ⟨_, -, -, ⟨response, rfl, hexchanges, -⟩ | ⟨error, rfl, hexchanges, -⟩⟩ :=
        request_spec hinbound hnext hrequest
      · exact hexchanges
      · exact hexchanges
  | requestBatch requests =>
    obtain ⟨-, ⟨error, rfl⟩, rfl⟩ | ⟨assigned, -, -, -, hcases⟩ :=
      requestBatch_spec hinbound hnext h
    · exact exchanges_nothing hinbound rfl hnext
    · obtain ⟨responses, rfl, hexchanges, -⟩ | ⟨error, rfl, -, hexchanges⟩ | ⟨rfl, -⟩ := hcases
      · exact hexchanges
      · exact hexchanges
      · exact absurd rfl (htimeout _)
  | receiveFrame => exact absurd rfl hcall

namespace Session

/-- The frames that have arrived are returned, parked or unread, and `receive_frame` returns them in
order. -/
def Accounts (arrived : List Frame) (s : Session) : Prop :=
  s.connection.nextOpaque ≠ 0 ∧ ∃ unread, s.connection.inbound = unread.map .ok ∧
    (s.returned ++ s.connection.pending ++ unread).Perm arrived ∧
    (s.received ++ s.connection.pending ++ unread).Sublist arrived

theorem step_eq_some (h : step s call = some t) :
    ∃ result connection, s.connection.perform call = some (result, connection) ∧
      (∀ timeout, result ≠ .error (.timeout timeout)) ∧
      t = { connection, log := s.log ++ [(call, result)] } := by
  rw [step] at h
  split at h
  next => cases h
  next => cases h
  next result connection htimeout hperform =>
    cases h
    exact ⟨result, connection, hperform, htimeout, rfl⟩

theorem returned_snoc (s : Session) (call : Call) (result : Result (List Frame))
    (connection : KvConnection) :
    returned { connection, log := s.log ++ [(call, result)] } =
      s.returned ++ result.toOption.getD [] := by
  simp only [returned, List.flatMap_append, List.flatMap_singleton]

theorem received_snoc (s : Session) (result : Result (List Frame)) (connection : KvConnection) :
    received { connection, log := s.log ++ [(.receiveFrame, result)] } =
      s.received ++ result.toOption.getD [] := by
  simp only [received, List.flatMap_append, List.flatMap_singleton]

theorem received_snoc_of_ne (s : Session) (hcall : call ≠ .receiveFrame)
    (result : Result (List Frame)) (connection : KvConnection) :
    received { connection, log := s.log ++ [(call, result)] } = s.received := by
  cases call with
  | receiveFrame => exact absurd rfl hcall
  | request frame =>
    simp only [received, List.flatMap_append, List.flatMap_singleton, List.append_nil]
  | requestBatch requests =>
    simp only [received, List.flatMap_append, List.flatMap_singleton, List.append_nil]

theorem step_accounts (h : Accounts arrived s) (hstep : step s call = some t) :
    Accounts arrived t := by
  obtain ⟨hnext, unread, hinbound, hconserved, horder⟩ := h
  obtain ⟨result, after, hperform, htimeout, rfl⟩ := step_eq_some hstep
  by_cases hcall : call = .receiveFrame
  · subst hcall
    obtain ⟨⟨received, _⟩, hreceive, heq⟩ := Option.map_eq_some_iff.1 hperform
    cases heq
    obtain ⟨frame, rest, rfl, hrest, hnext', hqueue⟩ := receiveFrame_spec hinbound hreceive
    rw [List.append_assoc, hqueue] at hconserved horder
    refine ⟨hnext'.trans_ne hnext, rest, hrest, ?_, ?_⟩
    · rw [returned_snoc, List.append_assoc, List.append_assoc]
      exact hconserved
    · rw [received_snoc, List.append_assoc, List.append_assoc]
      exact horder
  · obtain ⟨taken, rest, parked, rfl, hrest, hpending, hparked, htaken, hnext'⟩ :=
      perform_exchanges hinbound hnext hcall hperform htimeout
    refine ⟨hnext', rest, hrest, ?_, ?_⟩
    · rw [returned_snoc, hpending, List.append_assoc s.returned]
      have hmoved := (List.perm_append_comm_assoc (result.toOption.getD []) s.connection.pending
        parked).trans (htaken.append_left s.connection.pending)
      apply ((hmoved.append_left s.returned).append_right rest).trans
      rw [← List.append_assoc, List.append_assoc]
      exact hconserved
    · rw [received_snoc_of_ne s hcall, hpending]
      have hkept := (hparked.append_right rest).append_left (s.received ++ s.connection.pending)
      rw [← List.append_assoc, List.append_assoc s.received] at hkept
      exact hkept.trans horder

/-- Every frame is returned once or kept, in order, and every response goes to its request. -/
theorem correlated {connection : KvConnection} {arrived : List Frame}
    (hpending : connection.pending = []) (hnext : connection.nextOpaque ≠ 0)
    (hinbound : connection.inbound = arrived.map .ok)
    (hrun : Machine.run step { connection, log := [] } calls = some s) :
    ∃ unread, s.connection.inbound = unread.map .ok ∧
      (s.returned ++ s.connection.pending ++ unread).Perm arrived ∧
      (s.received ++ s.connection.pending ++ unread).Sublist arrived ∧
      (∀ frame result after, s.connection.request frame = (result, after) →
        Corresponds s.connection unread [frame] (result.map ([·])) after) ∧
      (∀ requests result after, s.connection.requestBatch requests = some (result, after) →
        if ((requests.map (·.opaqueId)).filter (· ≠ 0)).Nodup then
          Corresponds s.connection unread requests result after
        else (∃ error, result = .error error) ∧ after = s.connection) ∧
      ∀ requests : List Frame, requests.length < 2 ^ 32 - 1 →
        ∃ result after, s.connection.requestBatch requests = some (result, after) := by
  have hstart : Accounts arrived { connection, log := [] } := by
    refine ⟨hnext, arrived, hinbound, ?_, ?_⟩
    · rw [hpending]
      exact .refl _
    · rw [hpending]
      exact .refl _
  obtain ⟨hnext', unread, hinbound', hconserved, horder⟩ :=
    Machine.run_invariant (fun _ _ _ h hstep => step_accounts h hstep) hstart hrun
  exact ⟨unread, hinbound', hconserved, horder,
    fun _ _ _ hrequest => request_corresponds hinbound' hnext' hrequest,
    fun _ _ _ hbatch => requestBatch_corresponds hinbound' hnext' hbatch,
    fun _ hlength => requestBatch_ends hnext' hlength⟩

def sampleArrivals : List Frame :=
  Frame.request Opcode.dcpNoop :: ([0xFFFFFFFE, 2, 1, 0xFFFFFFFF, 3].map noopResponse)

def sampleRequests : List Frame :=
  [Frame.request Opcode.dcpNoop, { Frame.request Opcode.dcpNoop with opaqueId := 1 },
    Frame.request Opcode.dcpNoop]

def sampleConnection : KvConnection :=
  { peer := "kv"
    requestTimeout := 5
    nextOpaque := 0xFFFFFFFE
    pending := []
    inbound := sampleArrivals.map .ok
    sent := []
    fault := none }

/-- A request and a batch whose second automatic opaque comes after the wrap and passes over the one
that is chosen; one more request is answered then. -/
theorem correlated_wrapping :
    ∃ s, Machine.run step { connection := sampleConnection, log := [] }
        [.request (Frame.request Opcode.dcpNoop), .requestBatch sampleRequests, .receiveFrame] =
          some s ∧
      s.returned.map (·.opaqueId) = [0xFFFFFFFE, 0xFFFFFFFF, 1, 2, 0] ∧
      (s.returned ++ s.connection.pending ++ [noopResponse 3]).Perm sampleArrivals ∧
      ∃ after, s.connection.request { Frame.request Opcode.dcpNoop with opaqueId := 3 } =
        (.ok (noopResponse 3), after) := by
  have hstate : (Machine.run step { connection := sampleConnection, log := [] }
      [.request (Frame.request Opcode.dcpNoop), .requestBatch sampleRequests, .receiveFrame]).map
        (fun s => (s.connection.inbound, s.connection.fault, s.returned.map (·.opaqueId))) =
      some ([.ok (noopResponse 3)], none, [0xFFFFFFFE, 0xFFFFFFFF, 1, 2, 0]) := by decide +kernel
  obtain ⟨s, hs, hvalues⟩ := Option.map_eq_some_iff.1 hstate
  obtain ⟨hinbound, hvalues⟩ := Prod.mk.inj hvalues
  obtain ⟨hfault, hreturned⟩ := Prod.mk.inj hvalues
  obtain ⟨unread, hunread, hconserved, -, hrequest, -⟩ := correlated rfl (by decide) rfl hs
  obtain rfl : unread = [noopResponse 3] :=
    List.map_injective_iff.2 (fun _ _ => Except.ok.inj) (hunread.symm.trans hinbound)
  refine ⟨s, hs, hreturned, hconserved, ?_⟩
  match hresult : s.connection.request { Frame.request Opcode.dcpNoop with opaqueId := 3 } with
  | (result, after) =>
    obtain ⟨assigned, hassigned, -, -, hanswered, hreturns⟩ := hrequest _ _ _ hresult
    obtain ⟨request, hchosen, rfl⟩ : ∃ request : Frame, request.opaqueId = 3 ∧
        assigned = [request] := by
      cases hassigned with
      | cons hfirst hrest =>
        cases hrest
        exact ⟨_, hfirst.chosen (by decide), rfl⟩
    have hresponse : answers request.opaqueId (noopResponse 3) = true := by
      rw [hchosen]
      decide
    obtain ⟨responses, hok⟩ := hreturns hfault (by simpa using hresponse)
    obtain ⟨response, rfl, rfl⟩ := Result.map_eq_ok hok
    cases (hanswered _ rfl).2 with
    | cons hfind _ =>
      cases List.mem_singleton.1 (List.mem_of_find?_eq_some hfind)
      exact ⟨after, rfl⟩

end Session

end RustDcp.KvConnection
