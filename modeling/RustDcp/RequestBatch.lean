import RustDcp.Transport
import RustDcp.OrderedMap

namespace RustDcp.KvConnection
set_option autoImplicit true

/-- The first loop of `request_batch`: the opaques that the caller chose, with the indices of their
requests. -/
def registerOpaques (index : Nat) (pendingResponses : BTreeMap UInt32 Nat) :
    List Frame → Result (BTreeMap UInt32 Nat)
  | [] => .ok pendingResponses
  | request :: requests =>
    if request.opaqueId = 0 then registerOpaques (index + 1) pendingResponses requests
    else if pendingResponses.contains request.opaqueId then
      .error (.invalidConfiguration s!"request batch contains duplicate opaque {request.opaqueId}")
    else registerOpaques (index + 1) (pendingResponses.insert request.opaqueId index) requests

/-- Allocates until an opaque is vacant; `none` is the loop that finds none. -/
def allocateVacant (pendingResponses : BTreeMap UInt32 Nat) :
    Nat → KvConnection → Option (UInt32 × KvConnection)
  | 0, _ => none
  | attempts + 1, self =>
    let (opaqueId, self) := self.allocateOpaque
    if pendingResponses.contains opaqueId then allocateVacant pendingResponses attempts self
    else some (opaqueId, self)

/-- The second loop of `request_batch`. The counter takes all non-zero values before it comes back
to one, so that an opaque is vacant after at most as many attempts as opaques are taken or never. -/
def assignOpaques (index : Nat) (pendingResponses : BTreeMap UInt32 Nat) (self : KvConnection) :
    List Frame → Option (List Frame × BTreeMap UInt32 Nat × KvConnection)
  | [] => some ([], pendingResponses, self)
  | request :: requests =>
    if request.opaqueId ≠ 0 then
      (assignOpaques (index + 1) pendingResponses self requests).map fun (assigned, rest) =>
        (request :: assigned, rest)
    else
      (allocateVacant pendingResponses (pendingResponses.size + 1) self).bind
        fun (opaqueId, self) =>
          (assignOpaques (index + 1) (pendingResponses.insert opaqueId index) self requests).map
            fun (assigned, rest) => ({ request with opaqueId } :: assigned, rest)

def sendFrames (self : KvConnection) : List Frame → Outcome KvConnection
  | [] => (.ok (), self)
  | frame :: frames => Outcome.andThen (self.sendFrame frame) fun self => self.sendFrames frames

/-- The read loop of `request_batch`: parks every frame that is not a response waited for. -/
def awaitResponses (timeout : Nat) (pending : List Frame)
    (pendingResponses : BTreeMap UInt32 Nat) (responses : List (Option Frame))
    (inbound : List (Result Frame)) :
    Result (List (Option Frame)) × List Frame × List (Result Frame) :=
  if pendingResponses.isEmpty then (.ok responses, pending, inbound)
  else match inbound with
    | [] => (.error (.timeout timeout), pending, [])
    | .error error :: inbound => (.error error, pending, inbound)
    | .ok frame :: inbound =>
      match if frame.magic.isResponse then pendingResponses[frame.opaqueId]? else none with
      | some index =>
        awaitResponses timeout pending (pendingResponses.erase frame.opaqueId)
          (responses.set index (some frame)) inbound
      | none => awaitResponses timeout (pending ++ [frame]) pendingResponses responses inbound

def collectResponses : List (Option Frame) → Result (List Frame)
  | [] => .ok []
  | none :: _ =>
    .error (.protocol (.malformedFrame "request batch completed without every response"))
  | some response :: responses => (collectResponses responses).map (response :: ·)

/-- The part of `request_batch` that its timeout covers. -/
def exchangeBatch (self : KvConnection) (requests : List Frame)
    (pendingResponses : BTreeMap UInt32 Nat) : Result (List Frame) × KvConnection :=
  match self.sendFrames requests with
  | (.error error, self) => (.error error, self)
  | (.ok (), self) =>
    let (result, pending, inbound) :=
      awaitResponses self.requestTimeout self.pending pendingResponses
        (List.replicate requests.length none) self.inbound
    (result.bind collectResponses, { self with pending, inbound })

/-- `none` means that the allocation of the opaques does not end. -/
def requestBatch (self : KvConnection) (requests : List Frame) :
    Option (Result (List Frame) × KvConnection) :=
  match registerOpaques 0 ∅ requests with
  | .error error => some (.error error, self)
  | .ok pendingResponses =>
    (assignOpaques 0 pendingResponses self requests).map
      fun (requests, pendingResponses, self) =>
        if requests.isEmpty then (.ok [], self)
        else self.exchangeBatch requests pendingResponses

theorem toNat_nextOpaque (opaqueId : UInt32) :
    (max (opaqueId + 1) 1).toNat =
      if opaqueId.toNat = 2 ^ 32 - 1 then 1 else opaqueId.toNat + 1 := by
  have hbound := opaqueId.toNat_lt
  change (if opaqueId + 1 ≤ 1 then (1 : UInt32) else opaqueId + 1).toNat = _
  split
  next hle =>
    rw [UInt32.le_iff_toNat_le, UInt32.toNat_add, UInt32.toNat_one] at hle
    rw [UInt32.toNat_one]
    split <;> omega
  next hle =>
    rw [UInt32.le_iff_toNat_le, UInt32.toNat_add, UInt32.toNat_one] at hle
    rw [UInt32.toNat_add, UInt32.toNat_one]
    split <;> omega

/-- The `k`-th opaque that the counter takes from `first` on. -/
def opaqueAt (first : UInt32) (k : Nat) : UInt32 := (fun opaqueId => max (opaqueId + 1) 1)^[k] first

theorem toNat_opaqueAt (hfirst : first ≠ 0) (k : Nat) :
    (opaqueAt first k).toNat = (first.toNat - 1 + k) % (2 ^ 32 - 1) + 1 := by
  have hpos : 0 < first.toNat := by
    apply Nat.pos_of_ne_zero
    intro hzero
    exact hfirst (UInt32.toNat_inj.1 hzero)
  have hbound := first.toNat_lt
  induction k with
  | zero =>
    change first.toNat = _
    rw [Nat.add_zero, Nat.mod_eq_of_lt (by omega)]
    omega
  | succ k ih =>
    rw [opaqueAt, Function.iterate_succ_apply', ← opaqueAt, toNat_nextOpaque, ih]
    split <;> omega

theorem opaqueAt_ne_zero (hfirst : first ≠ 0) (k : Nat) : opaqueAt first k ≠ 0 := by
  intro hzero
  have h := toNat_opaqueAt hfirst k
  rw [hzero, UInt32.toNat_zero] at h
  omega

theorem opaqueAt_injective (hfirst : first ≠ 0) (hi : i < 2 ^ 32 - 1) (hj : j < 2 ^ 32 - 1)
    (h : opaqueAt first i = opaqueAt first j) : i = j := by
  have htoNat := congrArg UInt32.toNat h
  rw [toNat_opaqueAt hfirst, toNat_opaqueAt hfirst] at htoNat
  omega

theorem allocateVacant_eq_some (hnext : self.nextOpaque ≠ 0)
    (h : allocateVacant pendingResponses attempts self = some (opaqueId, after)) :
    opaqueId ≠ 0 ∧ opaqueId ∉ pendingResponses ∧
      ∃ next, next ≠ 0 ∧ after = { self with nextOpaque := next } := by
  induction attempts generalizing self with
  | zero => cases h
  | succ attempts ih =>
    have hsucc : (opaqueAt self.nextOpaque 1) ≠ 0 := opaqueAt_ne_zero hnext 1
    simp only [allocateVacant, allocateOpaque, Std.ExtTreeMap.contains_iff_mem] at h
    by_cases htaken : self.nextOpaque ∈ pendingResponses
    · rw [if_pos htaken] at h
      apply ih _ h
      exact hsucc
    · rw [if_neg htaken] at h
      cases h
      exact ⟨hnext, htaken, _, hsucc, rfl⟩

theorem allocateVacant_of_vacant (hk : k < attempts)
    (hvacant : opaqueAt self.nextOpaque k ∉ pendingResponses) :
    ∃ opaqueId after, allocateVacant pendingResponses attempts self = some (opaqueId, after) := by
  induction attempts generalizing self k with
  | zero => omega
  | succ attempts ih =>
    simp only [allocateVacant, allocateOpaque, Std.ExtTreeMap.contains_iff_mem]
    by_cases htaken : self.nextOpaque ∈ pendingResponses
    · rw [if_pos htaken]
      cases k with
      | zero => exact absurd htaken hvacant
      | succ k => exact ih (Nat.lt_of_succ_lt_succ hk) hvacant
    · rw [if_neg htaken]
      exact ⟨_, _, rfl⟩

theorem allocateVacant_ends (hnext : self.nextOpaque ≠ 0)
    (hsize : pendingResponses.size < 2 ^ 32 - 1) :
    ∃ opaqueId after, allocateVacant pendingResponses (pendingResponses.size + 1) self =
      some (opaqueId, after) := by
  obtain ⟨k, hk, hvacant⟩ := OrderedMap.exists_absent pendingResponses
    (fun i hi j hj => opaqueAt_injective hnext (Nat.lt_of_le_of_lt hi hsize)
      (Nat.lt_of_le_of_lt hj hsize))
  exact allocateVacant_of_vacant (Nat.lt_succ_of_le hk) hvacant

def Indexes (pendingResponses : BTreeMap UInt32 Nat) (opaques : List UInt32) : Prop :=
  ∀ (opaqueId : UInt32) (index : Nat), pendingResponses[opaqueId]? = some index ↔
    opaqueId ≠ 0 ∧ opaques[index]? = some opaqueId

theorem indexes_nil : Indexes ∅ [] := by
  intro opaqueId index
  simp

theorem Indexes.put (h : Indexes pendingResponses opaques)
    (hunset : ∀ opaqueId, opaques[k]? = some opaqueId → opaqueId = 0)
    (hput : opaques'[k]? = some opaqueId) (hrest : ∀ i ≠ k, opaques'[i]? = opaques[i]?)
    (hset : opaqueId ≠ 0) (hvacant : opaqueId ∉ pendingResponses) :
    Indexes (pendingResponses.insert opaqueId k) opaques' := by
  intro other index
  rw [Std.ExtTreeMap.getElem?_insert]
  simp only [Std.compare_eq_iff_eq]
  by_cases hindex : index = k
  · subst hindex
    rw [hput]
    by_cases hother : opaqueId = other
    · subst hother
      simp only [↓reduceIte, hset, ne_eq, not_false_eq_true, true_and]
    · rw [if_neg hother, h other index]
      constructor
      · rintro ⟨hne, hget⟩
        exact absurd (hunset other hget) hne
      · rintro ⟨-, hget⟩
        exact absurd (Option.some.inj hget) hother
  · rw [hrest index hindex]
    by_cases hother : opaqueId = other
    · subst hother
      simp only [↓reduceIte, Option.some.injEq]
      constructor
      · intro heq
        exact absurd heq.symm hindex
      · intro hget
        rw [← h opaqueId index] at hget
        rw [Std.ExtTreeMap.mem_iff_isSome_getElem?, hget] at hvacant
        exact absurd rfl hvacant
    · rw [if_neg hother, h other index]

theorem Indexes.size_le (h : Indexes pendingResponses opaques) :
    pendingResponses.size ≤ opaques.length := by
  have hnodup : pendingResponses.keys.Nodup := Std.ExtTreeMap.nodup_keys
  have hsubset : pendingResponses.keys ⊆ opaques := by
    intro opaqueId hmem
    rw [Std.ExtTreeMap.mem_keys, Std.ExtTreeMap.mem_iff_isSome_getElem?] at hmem
    obtain ⟨index, hindex⟩ := Option.isSome_iff_exists.1 hmem
    exact List.mem_of_getElem? ((h opaqueId index).1 hindex).2
  rw [← Std.ExtTreeMap.length_keys]
  exact (hnodup.subperm hsubset).length_le

theorem Indexes.nodup (h : Indexes pendingResponses opaques) (hset : 0 ∉ opaques) :
    opaques.Nodup := by
  rw [List.nodup_iff_getElem?_ne_getElem?]
  intro i j hij hj heq
  have hget : opaques[j]? = some opaques[j] := List.getElem?_eq_getElem hj
  have hne : opaques[j] ≠ 0 := by
    intro hzero
    exact hset (hzero ▸ List.getElem_mem hj)
  have hi := (h opaques[j] i).2 ⟨hne, heq.trans hget⟩
  rw [(h opaques[j] j).2 ⟨hne, hget⟩] at hi
  cases hi
  omega

theorem Indexes.snoc_zero (h : Indexes pendingResponses opaques) :
    Indexes pendingResponses (opaques ++ [0]) := by
  intro opaqueId index
  rw [h opaqueId index]
  apply and_congr_right
  intro hne
  rw [List.getElem?_append]
  split
  next => rfl
  next hindex =>
    rw [List.getElem?_eq_none (Nat.le_of_not_lt hindex), List.getElem?_singleton]
    split
    next => simp [hne.symm]
    next => rfl

theorem Indexes.snoc (h : Indexes pendingResponses opaques) (hset : opaqueId ≠ 0)
    (hvacant : opaqueId ∉ pendingResponses) :
    Indexes (pendingResponses.insert opaqueId opaques.length) (opaques ++ [opaqueId]) := by
  apply h.put _ List.getElem?_concat_length _ hset hvacant
  · intro other hother
    rw [List.getElem?_length] at hother
    cases hother
  · intro i hi
    rw [List.getElem?_append]
    split
    next => rfl
    next hlen =>
      rw [List.getElem?_eq_none (by rw [List.length_singleton]; omega),
        List.getElem?_eq_none (by omega)]

theorem registerOpaques_eq_ok {requests : List Frame} (h : Indexes pendingResponses opaques)
    (hok : registerOpaques opaques.length pendingResponses requests = .ok registered) :
    Indexes registered (opaques ++ requests.map (·.opaqueId)) := by
  induction requests generalizing pendingResponses opaques with
  | nil =>
    cases hok
    rwa [List.map_nil, List.append_nil]
  | cons request requests ih =>
    rw [List.map_cons, List.append_cons]
    have hlength : (opaques ++ [request.opaqueId]).length = opaques.length + 1 :=
      List.length_append
    rw [registerOpaques] at hok
    by_cases hunset : request.opaqueId = 0
    · rw [if_pos hunset, ← hlength] at hok
      apply ih _ hok
      rw [hunset]
      exact h.snoc_zero
    · rw [if_neg hunset] at hok
      by_cases htaken : pendingResponses.contains request.opaqueId = true
      · rw [if_pos htaken] at hok
        cases hok
      · rw [if_neg htaken, ← hlength] at hok
        rw [Std.ExtTreeMap.contains_iff_mem] at htaken
        exact ih (h.snoc hunset htaken) hok

theorem registerOpaques_ok {requests : List Frame} (h : Indexes pendingResponses opaques)
    (hdistinct : ((opaques ++ requests.map (·.opaqueId)).filter (· ≠ 0)).Nodup) :
    ∃ registered, registerOpaques opaques.length pendingResponses requests = .ok registered := by
  induction requests generalizing pendingResponses opaques with
  | nil => exact ⟨_, rfl⟩
  | cons request requests ih =>
    rw [List.map_cons, List.append_cons] at hdistinct
    have hlength : (opaques ++ [request.opaqueId]).length = opaques.length + 1 :=
      List.length_append
    rw [registerOpaques, ← hlength]
    by_cases hunset : request.opaqueId = 0
    · rw [if_pos hunset]
      apply ih _ hdistinct
      rw [hunset]
      exact h.snoc_zero
    · have hvacant : request.opaqueId ∉ pendingResponses := by
        intro hmem
        rw [Std.ExtTreeMap.mem_iff_isSome_getElem?] at hmem
        obtain ⟨index, hindex⟩ := Option.isSome_iff_exists.1 hmem
        have htaken := List.mem_of_getElem? ((h _ _).1 hindex).2
        rw [List.filter_append, List.filter_append, List.nodup_append, List.nodup_append]
          at hdistinct
        exact hdistinct.1.2.2 request.opaqueId (by simp [htaken, hunset]) request.opaqueId
          (by simp [hunset]) rfl
      rw [if_neg hunset, if_neg (mt Std.ExtTreeMap.contains_iff_mem.1 hvacant)]
      exact ih (h.snoc hunset hvacant) hdistinct

/-- The request as it is sent: with its own opaque, or with the one that was assigned to it. -/
structure Assigned (request frame : Frame) : Prop where
  set : frame.opaqueId ≠ 0
  rest : frame = { request with opaqueId := frame.opaqueId }
  chosen : request.opaqueId ≠ 0 → frame.opaqueId = request.opaqueId

theorem Assigned.all_set {requests : List Frame} (h : List.Forall₂ Assigned requests assigned) :
    0 ∉ assigned.map (·.opaqueId) := by
  induction h with
  | nil => exact List.not_mem_nil
  | cons hassigned _ ih =>
    rw [List.map_cons, List.mem_cons, not_or]
    exact ⟨hassigned.set.symm, ih⟩

theorem Assigned.distinct {requests : List Frame} (h : List.Forall₂ Assigned requests assigned)
    (hnodup : (assigned.map (·.opaqueId)).Nodup) :
    ((requests.map (·.opaqueId)).filter (· ≠ 0)).Nodup := by
  refine hnodup.sublist ?_
  clear hnodup
  induction h with
  | nil => exact .slnil
  | @cons request frame _ _ hassigned _ ih =>
    rw [List.map_cons, List.map_cons]
    by_cases hset : request.opaqueId ≠ 0
    · rw [List.filter_cons_of_pos (by simpa using hset), hassigned.chosen hset]
      exact ih.cons_cons _
    · rw [List.filter_cons_of_neg (by simpa using hset)]
      exact ih.cons _

theorem Indexes.assign {rest : List UInt32}
    (h : Indexes pendingResponses (opaques ++ unset :: rest))
    (hunset : unset = 0) (hset : opaqueId ≠ 0) (hvacant : opaqueId ∉ pendingResponses) :
    Indexes (pendingResponses.insert opaqueId opaques.length) (opaques ++ opaqueId :: rest) := by
  apply h.put _ _ _ hset hvacant
  · intro other hother
    rw [List.getElem?_append_right (Nat.le_refl _), Nat.sub_self] at hother
    cases hother
    exact hunset
  · rw [List.getElem?_append_right (Nat.le_refl _), Nat.sub_self]
    rfl
  · intro i hi
    rw [List.getElem?_append, List.getElem?_append]
    split
    next => rfl
    next hlen =>
      obtain ⟨k, hk⟩ : ∃ k, i - opaques.length = k + 1 := ⟨i - opaques.length - 1, by omega⟩
      rw [hk, List.getElem?_cons_succ, List.getElem?_cons_succ]

theorem assignOpaques_eq_some {requests : List Frame} (hnext : self.nextOpaque ≠ 0)
    (h : Indexes pendingResponses (opaques ++ requests.map (·.opaqueId)))
    (hsome : assignOpaques opaques.length pendingResponses self requests =
      some (assigned, registered, after)) :
    List.Forall₂ Assigned requests assigned ∧
      Indexes registered (opaques ++ assigned.map (·.opaqueId)) ∧
      ∃ next, next ≠ 0 ∧ after = { self with nextOpaque := next } := by
  induction requests generalizing pendingResponses opaques self assigned with
  | nil =>
    cases hsome
    exact ⟨.nil, h, _, hnext, rfl⟩
  | cons request requests ih =>
    have hlength : ∀ opaqueId, (opaques ++ [opaqueId]).length = opaques.length + 1 := by
      intro opaqueId
      exact List.length_append
    rw [List.map_cons] at h
    rw [assignOpaques] at hsome
    by_cases hset : request.opaqueId ≠ 0
    · rw [if_pos hset, ← hlength request.opaqueId, Option.map_eq_some_iff] at hsome
      obtain ⟨⟨tail, _, _⟩, htail, heq⟩ := hsome
      cases heq
      rw [List.append_cons] at h
      obtain ⟨hassigned, hindexes, hafter⟩ := ih hnext h htail
      rw [List.append_assoc] at hindexes
      exact ⟨.cons ⟨hset, rfl, fun _ => rfl⟩ hassigned, hindexes, hafter⟩
    · rw [if_neg hset, Option.bind_eq_some_iff] at hsome
      obtain ⟨⟨opaqueId, vacated⟩, hallocate, hsome⟩ := hsome
      rw [Option.map_eq_some_iff, ← hlength opaqueId] at hsome
      obtain ⟨⟨tail, _, _⟩, htail, heq⟩ := hsome
      cases heq
      obtain ⟨hopaqueId, hvacant, next, hnext', rfl⟩ := allocateVacant_eq_some hnext hallocate
      have hput := h.assign (not_not.1 hset) hopaqueId hvacant
      rw [List.append_cons] at hput
      obtain ⟨hassigned, hindexes, next', hnext'', rfl⟩ := ih hnext' hput htail
      rw [List.append_assoc] at hindexes
      exact ⟨.cons ⟨hopaqueId, rfl, fun hne => absurd hne hset⟩ hassigned, hindexes, next', hnext'',
        rfl⟩

theorem assignOpaques_ends {requests : List Frame} (hnext : self.nextOpaque ≠ 0)
    (h : Indexes pendingResponses (opaques ++ requests.map (·.opaqueId)))
    (hlength : (opaques ++ requests.map (·.opaqueId)).length < 2 ^ 32 - 1) :
    ∃ assigned registered after, assignOpaques opaques.length pendingResponses self requests =
      some (assigned, registered, after) := by
  induction requests generalizing pendingResponses opaques self with
  | nil => exact ⟨_, _, _, rfl⟩
  | cons request requests ih =>
    have hsnoc : ∀ opaqueId, (opaques ++ [opaqueId]).length = opaques.length + 1 := by
      intro opaqueId
      exact List.length_append
    have hsize := h.size_le
    rw [List.map_cons] at h hlength hsize
    rw [assignOpaques]
    by_cases hset : request.opaqueId ≠ 0
    · rw [List.append_cons] at h hlength
      obtain ⟨assigned, registered, after, htail⟩ := ih hnext h hlength
      rw [hsnoc] at htail
      rw [if_pos hset, htail]
      exact ⟨_, _, _, rfl⟩
    · obtain ⟨opaqueId, vacated, hallocate⟩ :=
        allocateVacant_ends hnext (Nat.lt_of_le_of_lt hsize hlength)
      obtain ⟨hopaqueId, hvacant, next, hnext', rfl⟩ := allocateVacant_eq_some hnext hallocate
      have hput := h.assign (not_not.1 hset) hopaqueId hvacant
      have hlength' : (opaques ++ opaqueId :: requests.map (·.opaqueId)).length < 2 ^ 32 - 1 := by
        rw [List.length_append, List.length_cons] at hlength ⊢
        exact hlength
      rw [List.append_cons] at hput hlength'
      obtain ⟨assigned, registered, after, htail⟩ :=
        @ih _ _ { self with nextOpaque := next } hnext' hput hlength'
      rw [hsnoc] at htail
      rw [if_neg hset, hallocate, Option.bind_some]
      dsimp only
      rw [htail]
      exact ⟨_, _, _, rfl⟩

/-- What a call has sent of its requests: all of them, unless the connection fails. -/
def Sends (self : KvConnection) (requests : List Frame) (after : KvConnection) : Prop :=
  ∃ sending, sending <+: requests ∧ after.sent = self.sent ++ sending ∧
    (self.fault = none → sending = requests)

theorem sendFrames_eq {self : KvConnection} {frames : List Frame}
    (h : self.sendFrames frames = (result, after)) :
    ∃ sending fault, sending <+: frames ∧
      after = { self with sent := self.sent ++ sending, fault } ∧
      (result = .ok () ∧ sending = frames ∨
        self.fault ≠ none ∧ ∃ error, result = .error error) := by
  induction frames generalizing self with
  | nil =>
    cases h
    exact ⟨[], _, List.prefix_rfl, by rw [List.append_nil], .inl ⟨rfl, rfl⟩⟩
  | cons frame frames ih =>
    rw [sendFrames] at h
    match hsend : self.sendFrame frame with
    | (.error error, failed) =>
      rw [hsend] at h
      cases h
      obtain ⟨fault, -, ⟨hok, -⟩ | ⟨hfault, -, rfl⟩⟩ := sendFrame_eq hsend
      · cases hok
      · exact ⟨[], fault, List.nil_prefix, by rw [List.append_nil], .inr ⟨hfault, error, rfl⟩⟩
    | (.ok (), flushed) =>
      rw [hsend] at h
      obtain ⟨fault, hnone, ⟨-, rfl⟩ | ⟨-, ⟨error, herror⟩, -⟩⟩ := sendFrame_eq hsend
      · obtain ⟨sending, fault', hprefix, rfl, hrest⟩ := ih h
        refine ⟨frame :: sending, fault', List.cons_prefix_cons.2 ⟨rfl, hprefix⟩, ?_, ?_⟩
        · rw [List.append_assoc, List.singleton_append]
        · exact hrest.imp (fun ⟨hok, hall⟩ => ⟨hok, by rw [hall]⟩) fun ⟨hfault, herror⟩ =>
            ⟨fun hself => hfault (hnone hself), herror⟩
      · cases herror

def answers (opaqueId : UInt32) (frame : Frame) : Bool :=
  frame.magic.isResponse && frame.opaqueId == opaqueId

structure Waiting (opaques : List UInt32) (seen : List Frame)
    (pendingResponses : BTreeMap UInt32 Nat) (responses : List (Option Frame))
    (parked : List Frame) : Prop where
  filled : responses = opaques.map fun opaqueId => seen.find? (answers opaqueId)
  expected : ∀ (opaqueId : UInt32) (index : Nat), pendingResponses[opaqueId]? = some index ↔
    opaques[index]? = some opaqueId ∧ seen.find? (answers opaqueId) = none
  order : parked.Sublist seen
  conserved : (responses.filterMap id ++ parked).Perm seen

theorem Waiting.start (h : Indexes pendingResponses opaques) (hset : 0 ∉ opaques) :
    Waiting opaques [] pendingResponses (List.replicate opaques.length none) [] where
  filled := by simp only [List.find?_nil, List.map_const']
  expected opaqueId index := by
    rw [h opaqueId index]
    constructor
    · rintro ⟨-, hget⟩
      exact ⟨hget, rfl⟩
    · rintro ⟨hget, -⟩
      refine ⟨?_, hget⟩
      rintro rfl
      exact hset (List.mem_of_getElem? hget)
  order := .slnil
  conserved := by simp

theorem find?_snoc_of_not_answers (h : answers opaqueId frame = false) (seen : List Frame) :
    (seen ++ [frame]).find? (answers opaqueId) = seen.find? (answers opaqueId) := by
  rw [List.find?_append, List.find?_singleton, h]
  simp

theorem filterMap_set_perm {responses : List (Option α)} (h : responses[index]? = some none) :
    ((responses.set index (some a)).filterMap id).Perm (a :: responses.filterMap id) := by
  obtain ⟨hindex, hget⟩ := List.getElem?_eq_some_iff.1 h
  have hset := (List.set_perm_cons_eraseIdx hindex (some a)).filterMap id
  have herase := (List.getElem_cons_eraseIdx_perm hindex).filterMap id
  rw [hget] at herase
  exact hset.trans (herase.cons a)

theorem Waiting.answered (h : Waiting opaques seen pendingResponses responses parked)
    (hnodup : opaques.Nodup) (hresponse : frame.magic.isResponse = true)
    (hindex : pendingResponses[frame.opaqueId]? = some index) :
    Waiting opaques (seen ++ [frame]) (pendingResponses.erase frame.opaqueId)
      (responses.set index (some frame)) parked := by
  obtain ⟨hget, hnone⟩ := (h.expected _ _).1 hindex
  have hself : (seen ++ [frame]).find? (answers frame.opaqueId) = some frame := by
    rw [List.find?_append, hnone]
    simp [answers, hresponse]
  have hother : ∀ opaqueId, opaqueId ≠ frame.opaqueId →
      (seen ++ [frame]).find? (answers opaqueId) = seen.find? (answers opaqueId) := by
    intro opaqueId hne
    apply find?_snoc_of_not_answers
    simp [answers, hne.symm]
  have hne : ∀ (i : Nat) opaqueId, opaques[i]? = some opaqueId → i ≠ index →
      opaqueId ≠ frame.opaqueId := by
    rintro i opaqueId hi hne rfl
    obtain ⟨hlt, -⟩ := List.getElem?_eq_some_iff.1 hi
    exact hne ((List.getElem?_inj hlt hnodup).1 (hi.trans hget.symm))
  have hempty : responses[index]? = some none := by
    rw [h.filled, List.getElem?_map, hget, Option.map_some, hnone]
  refine ⟨?_, ?_, h.order.trans (List.sublist_append_left _ _), ?_⟩
  · apply List.ext_getElem?
    intro i
    rw [List.getElem?_map]
    by_cases hi : i = index
    · subst hi
      rw [hget, Option.map_some, hself]
      exact List.getElem?_set_self (List.getElem?_eq_some_iff.1 hempty).1
    · rw [List.getElem?_set_ne (Ne.symm hi), h.filled, List.getElem?_map]
      cases hopaqueId : opaques[i]? with
      | none => rfl
      | some opaqueId => rw [Option.map_some, Option.map_some, hother _ (hne i _ hopaqueId hi)]
  · intro opaqueId i
    rw [Std.ExtTreeMap.getElem?_erase]
    simp only [Std.compare_eq_iff_eq]
    by_cases heq : frame.opaqueId = opaqueId
    · subst heq
      simp only [↓reduceIte, reduceCtorEq, hself, and_false]
    · rw [if_neg heq, hother opaqueId (Ne.symm heq)]
      exact h.expected opaqueId i
  · have hset := (filterMap_set_perm (a := frame) hempty).append_right parked
    have hread := (h.conserved.cons frame).trans (List.perm_append_singleton frame seen).symm
    exact hset.trans hread

theorem Waiting.park (h : Waiting opaques seen pendingResponses responses parked)
    (hunexpected : frame.magic.isResponse = true → pendingResponses[frame.opaqueId]? = none) :
    Waiting opaques (seen ++ [frame]) pendingResponses responses (parked ++ [frame]) := by
  -- A response to one of the opaques that is not expected any more came before.
  have hsame : ∀ opaqueId ∈ opaques,
      (seen ++ [frame]).find? (answers opaqueId) = seen.find? (answers opaqueId) := by
    intro opaqueId hmem
    by_cases hanswers : answers opaqueId frame = true
    · obtain ⟨hresponse, heq⟩ := Bool.and_eq_true_iff.1 hanswers
      obtain ⟨index, hindex⟩ := List.getElem?_of_mem hmem
      have hnone := hunexpected hresponse
      rw [beq_iff_eq.1 heq] at hnone
      cases hfind : seen.find? (answers opaqueId) with
      | none =>
        rw [(h.expected opaqueId index).2 ⟨hindex, hfind⟩] at hnone
        cases hnone
      | some response => rw [List.find?_append, hfind, Option.some_or]
    · exact find?_snoc_of_not_answers (Bool.eq_false_iff.2 hanswers) seen
  refine ⟨?_, ?_, h.order.append (List.Sublist.refl _), ?_⟩
  · rw [h.filled]
    exact List.map_congr_left fun opaqueId hmem => (hsame opaqueId hmem).symm
  · intro opaqueId index
    rw [h.expected]
    apply and_congr_right
    intro hget
    rw [hsame opaqueId (List.mem_of_getElem? hget)]
  · rw [← List.append_assoc]
    exact h.conserved.append_right [frame]

theorem Waiting.complete (h : Waiting opaques seen pendingResponses responses parked)
    (hempty : pendingResponses.isEmpty = true) :
    ∀ opaqueId ∈ opaques, (seen.find? (answers opaqueId)).isSome = true := by
  intro opaqueId hmem
  obtain ⟨index, hindex⟩ := List.getElem?_of_mem hmem
  rw [← Option.ne_none_iff_isSome]
  intro hnone
  have hexpected := (h.expected opaqueId index).2 ⟨hindex, hnone⟩
  rw [Std.ExtTreeMap.isEmpty_iff.1 hempty, Std.ExtTreeMap.getElem?_empty] at hexpected
  cases hexpected

theorem Waiting.incomplete (h : Waiting opaques seen pendingResponses responses parked)
    (hempty : pendingResponses.isEmpty = false) :
    ∃ opaqueId ∈ opaques, seen.find? (answers opaqueId) = none := by
  rw [← Bool.not_eq_true, Std.ExtTreeMap.isEmpty_iff,
    Std.ExtTreeMap.eq_empty_iff_forall_not_mem] at hempty
  obtain ⟨opaqueId, hmem⟩ := not_forall_not.1 hempty
  rw [Std.ExtTreeMap.mem_iff_isSome_getElem?] at hmem
  obtain ⟨index, hindex⟩ := Option.isSome_iff_exists.1 hmem
  obtain ⟨hget, hnone⟩ := (h.expected opaqueId index).1 hindex
  exact ⟨opaqueId, List.mem_of_getElem? hget, hnone⟩

/-- The read loop stops at the last response that it waits for, or at the end of what the peer
sends. -/
theorem awaitResponses_spec (hnodup : opaques.Nodup) (timeout : Nat) (pending unread : List Frame)
    (h : Waiting opaques seen pendingResponses responses parked) :
    ∃ taken rest expected filled kept, unread = taken ++ rest ∧
      Waiting opaques (seen ++ taken) expected filled kept ∧
      awaitResponses timeout (pending ++ parked) pendingResponses responses (unread.map .ok) =
        (if expected.isEmpty then .ok filled else .error (.timeout timeout), pending ++ kept,
          rest.map .ok) ∧
      (expected.isEmpty = false → rest = []) := by
  induction unread generalizing seen pendingResponses responses parked with
  | nil =>
    refine ⟨[], [], pendingResponses, responses, parked, rfl, ?_, ?_, fun _ => rfl⟩
    · rwa [List.append_nil]
    · rw [awaitResponses.eq_def]
      split <;> rfl
  | cons frame unread ih =>
    by_cases hempty : pendingResponses.isEmpty = true
    · refine ⟨[], frame :: unread, pendingResponses, responses, parked, rfl, ?_, ?_, ?_⟩
      · rwa [List.append_nil]
      · rw [awaitResponses.eq_def, if_pos hempty, if_pos hempty]
      · rw [hempty]
        nofun
    · rw [List.map_cons, awaitResponses.eq_def, if_neg hempty]
      dsimp only
      cases hindex :
        (if frame.magic.isResponse then pendingResponses[frame.opaqueId]? else none) with
      | some index =>
        rw [Option.ite_none_right_eq_some] at hindex
        obtain ⟨taken, rest, expected, filled, kept, rfl, hwaiting, hloop, hrest⟩ :=
          ih (h.answered hnodup hindex.1 hindex.2)
        rw [List.append_assoc] at hwaiting
        exact ⟨frame :: taken, rest, expected, filled, kept, rfl, hwaiting, hloop, hrest⟩
      | none =>
        have hunexpected : frame.magic.isResponse = true →
            pendingResponses[frame.opaqueId]? = none := by
          intro hresponse
          rwa [if_pos hresponse] at hindex
        obtain ⟨taken, rest, expected, filled, kept, rfl, hwaiting, hloop, hrest⟩ :=
          ih (h.park hunexpected)
        rw [List.append_assoc] at hwaiting
        rw [← List.append_assoc] at hloop
        exact ⟨frame :: taken, rest, expected, filled, kept, rfl, hwaiting, hloop, hrest⟩

theorem collectResponses_eq_ok {opaques : List UInt32}
    (h : ∀ opaqueId ∈ opaques, (respond opaqueId).isSome = true) :
    ∃ responses, collectResponses (opaques.map respond) = .ok responses ∧
      (opaques.map respond).filterMap id = responses ∧
      List.Forall₂ (fun opaqueId response => respond opaqueId = some response) opaques
        responses := by
  induction opaques with
  | nil => exact ⟨[], rfl, rfl, .nil⟩
  | cons opaqueId opaques ih =>
    obtain ⟨hfirst, hrest⟩ := List.forall_mem_cons.1 h
    obtain ⟨response, hresponse⟩ := Option.isSome_iff_exists.1 hfirst
    obtain ⟨responses, hcollect, hvalues, hresponses⟩ := ih hrest
    refine ⟨response :: responses, ?_, ?_, .cons hresponse hresponses⟩
    · rw [List.map_cons, hresponse, collectResponses, hcollect]
      rfl
    · rw [List.map_cons, hresponse, ← hvalues]
      rfl

/-- A call has taken frames from the peer, returned some of them and parked the others. -/
def Exchanges (self : KvConnection) (unread returned : List Frame) (after : KvConnection) : Prop :=
  ∃ taken rest parked, unread = taken ++ rest ∧ after.inbound = rest.map .ok ∧
    after.pending = self.pending ++ parked ∧ parked.Sublist taken ∧
    (returned ++ parked).Perm taken ∧ after.nextOpaque ≠ 0

/-- Every request has the first response with its opaque among the unread frames. -/
def Answered (unread requests responses : List Frame) : Prop :=
  List.Forall₂ (fun request response => unread.find? (answers request.opaqueId) = some response)
    requests responses

theorem exchanges_nothing {self after : KvConnection} (hinbound : after.inbound = unread.map .ok)
    (hpending : after.pending = self.pending) (hnext : after.nextOpaque ≠ 0) :
    Exchanges self unread [] after :=
  ⟨[], unread, [], rfl, hinbound, hpending.trans (List.append_nil _).symm, .slnil, .nil, hnext⟩

/-- A call sends its requests, each with an opaque of its own, and returns their responses if it
returns; it does so if every request has one. -/
def Corresponds (self : KvConnection) (unread requests : List Frame)
    (result : Result (List Frame)) (after : KvConnection) : Prop :=
  ∃ assigned, List.Forall₂ Assigned requests assigned ∧ (assigned.map (·.opaqueId)).Nodup ∧
    Sends self assigned after ∧
    (∀ responses, result = .ok responses →
      after.sent = self.sent ++ assigned ∧ Answered unread assigned responses) ∧
    (self.fault = none →
      (∀ request ∈ assigned, ∃ response ∈ unread, answers request.opaqueId response = true) →
      ∃ responses, result = .ok responses)

theorem exchangeBatch_spec {self : KvConnection} {requests : List Frame}
    (hinbound : self.inbound = unread.map .ok) (hnext : self.nextOpaque ≠ 0)
    (hindexes : Indexes pendingResponses (requests.map (·.opaqueId)))
    (hset : 0 ∉ requests.map (·.opaqueId))
    (h : self.exchangeBatch requests pendingResponses = (result, after)) :
    Sends self requests after ∧
      ((∃ responses, result = .ok responses ∧ Exchanges self unread responses after ∧
          after.sent = self.sent ++ requests ∧ Answered unread requests responses) ∨
        (∃ error, result = .error error ∧ self.fault ≠ none ∧ Exchanges self unread [] after) ∨
        result = .error (.timeout self.requestTimeout) ∧
          ∃ request ∈ requests, unread.find? (answers request.opaqueId) = none) := by
  rw [exchangeBatch] at h
  match hsend : self.sendFrames requests with
  | (.error error, failed) =>
    rw [hsend] at h
    cases h
    obtain ⟨sending, fault, hprefix, rfl, ⟨hok, -⟩ | ⟨hfault, -⟩⟩ := sendFrames_eq hsend
    · cases hok
    · exact ⟨⟨sending, hprefix, rfl, fun hnone => absurd hnone hfault⟩,
        .inr (.inl ⟨error, rfl, hfault, exchanges_nothing hinbound rfl hnext⟩)⟩
  | (.ok (), flushed) =>
    obtain ⟨_, fault, -, rfl, ⟨-, rfl⟩ | ⟨-, error, herror⟩⟩ := sendFrames_eq hsend
    case inr => cases herror
    obtain ⟨taken, rest, expected, filled, kept, rfl, hwaiting, hloop, hrest⟩ :=
      awaitResponses_spec (hindexes.nodup hset) self.requestTimeout self.pending unread
        (Waiting.start hindexes hset)
    rw [List.append_nil, List.length_map] at hloop
    rw [List.nil_append] at hwaiting
    rw [hsend] at h
    dsimp only at h
    rw [hinbound, hloop] at h
    cases hempty : expected.isEmpty with
    | true =>
      obtain ⟨responses, hcollect, hvalues, hresponses⟩ :=
        collectResponses_eq_ok (hwaiting.complete hempty)
      rw [← hwaiting.filled] at hcollect hvalues
      simp only [hempty, ↓reduceIte, Except.bind, hcollect] at h
      cases h
      refine ⟨⟨_, List.prefix_rfl, rfl, fun _ => rfl⟩, .inl ⟨responses, rfl,
        ⟨taken, rest, kept, rfl, rfl, rfl, hwaiting.order, ?_, hnext⟩, rfl, ?_⟩⟩
      · rw [← hvalues]
        exact hwaiting.conserved
      · rw [List.forall₂_map_left_iff] at hresponses
        apply hresponses.imp
        intro request response hresponse
        rw [List.find?_append, hresponse, Option.some_or]
    | false =>
      simp only [hempty, Bool.false_eq_true, ↓reduceIte, Except.bind] at h
      cases h
      obtain ⟨opaqueId, hmem, hnone⟩ := hwaiting.incomplete hempty
      obtain ⟨request, hrequest, rfl⟩ := List.mem_map.1 hmem
      refine ⟨⟨_, List.prefix_rfl, rfl, fun _ => rfl⟩, .inr (.inr ⟨rfl, request, hrequest, ?_⟩)⟩
      rw [hrest hempty, List.append_nil, hnone]

theorem requestBatch_spec {self : KvConnection} {requests : List Frame}
    (hinbound : self.inbound = unread.map .ok) (hnext : self.nextOpaque ≠ 0)
    (h : self.requestBatch requests = some (result, after)) :
    (¬((requests.map (·.opaqueId)).filter (· ≠ 0)).Nodup ∧ (∃ error, result = .error error) ∧
        after = self) ∨
      ∃ assigned, List.Forall₂ Assigned requests assigned ∧ (assigned.map (·.opaqueId)).Nodup ∧
        Sends self assigned after ∧
        ((∃ responses, result = .ok responses ∧ Exchanges self unread responses after ∧
            after.sent = self.sent ++ assigned ∧ Answered unread assigned responses) ∨
          (∃ error, result = .error error ∧ self.fault ≠ none ∧ Exchanges self unread [] after) ∨
          result = .error (.timeout self.requestTimeout) ∧
            ∃ request ∈ assigned, unread.find? (answers request.opaqueId) = none) := by
  rw [requestBatch] at h
  cases hregister : registerOpaques 0 ∅ requests with
  | error error =>
    rw [hregister] at h
    cases h
    left
    refine ⟨?_, ⟨error, rfl⟩, rfl⟩
    intro hdistinct
    obtain ⟨registered, hok⟩ := registerOpaques_ok indexes_nil hdistinct
    cases hregister.symm.trans hok
  | ok registered =>
    rw [hregister] at h
    obtain ⟨⟨assigned, expected, prepared⟩, hassign, h⟩ := Option.map_eq_some_iff.1 h
    obtain ⟨hassigned, hindexes, next, hnext', rfl⟩ :=
      assignOpaques_eq_some hnext (registerOpaques_eq_ok indexes_nil hregister) hassign
    have hset := Assigned.all_set hassigned
    rw [List.nil_append] at hindexes
    right
    refine ⟨assigned, hassigned, hindexes.nodup hset, ?_⟩
    dsimp only at h
    by_cases hempty : assigned.isEmpty = true
    · rw [if_pos hempty] at h
      rw [List.isEmpty_iff] at hempty
      subst hempty
      cases h
      have hsent : self.sent = self.sent ++ [] := (List.append_nil _).symm
      exact ⟨⟨[], List.prefix_rfl, hsent, fun _ => rfl⟩,
        .inl ⟨[], rfl, exchanges_nothing hinbound rfl hnext', hsent, .nil⟩⟩
    · rw [if_neg hempty] at h
      exact @exchangeBatch_spec _ _ _ _ { self with nextOpaque := next } _ hinbound hnext' hindexes
        hset h

theorem requestBatch_corresponds {self : KvConnection} {requests : List Frame}
    (hinbound : self.inbound = unread.map .ok) (hnext : self.nextOpaque ≠ 0)
    (h : self.requestBatch requests = some (result, after)) :
    if ((requests.map (·.opaqueId)).filter (· ≠ 0)).Nodup then
      Corresponds self unread requests result after
    else (∃ error, result = .error error) ∧ after = self := by
  split
  next hdistinct =>
    obtain ⟨hrepeated, -⟩ | ⟨assigned, hassigned, hnodup, hsends, hcases⟩ :=
      requestBatch_spec hinbound hnext h
    · exact absurd hdistinct hrepeated
    refine ⟨assigned, hassigned, hnodup, hsends, ?_, ?_⟩
    · rintro responses rfl
      obtain ⟨_, heq, -, hsent, hanswered⟩ | ⟨_, heq, -⟩ | ⟨heq, -⟩ := hcases
      · cases heq
        exact ⟨hsent, hanswered⟩
      · cases heq
      · cases heq
    · intro hfault hresponses
      obtain ⟨responses, hok, -⟩ | ⟨_, -, hfault', -⟩ | ⟨-, request, hmem, hnone⟩ := hcases
      · exact ⟨responses, hok⟩
      · exact absurd hfault hfault'
      · obtain ⟨response, hresponse, hanswers⟩ := hresponses request hmem
        exact absurd hanswers (List.find?_eq_none.1 hnone response hresponse)
  next hrepeated =>
    obtain ⟨-, herror, hafter⟩ | ⟨assigned, hassigned, hnodup, -⟩ :=
      requestBatch_spec hinbound hnext h
    · exact ⟨herror, hafter⟩
    · exact absurd (Assigned.distinct hassigned hnodup) hrepeated

theorem requestBatch_ends {self : KvConnection} {requests : List Frame}
    (hnext : self.nextOpaque ≠ 0) (hlength : requests.length < 2 ^ 32 - 1) :
    ∃ result after, self.requestBatch requests = some (result, after) := by
  rw [requestBatch]
  cases hregister : registerOpaques 0 ∅ requests with
  | error error => exact ⟨_, _, rfl⟩
  | ok registered =>
    have hindexes := registerOpaques_eq_ok indexes_nil hregister
    rw [← List.length_map (·.opaqueId), ← List.nil_append (List.map _ _)] at hlength
    obtain ⟨assigned, expected, prepared, hassign⟩ := assignOpaques_ends hnext hindexes hlength
    rw [List.length_nil] at hassign
    dsimp only
    rw [hassign]
    exact ⟨_, _, rfl⟩

end RustDcp.KvConnection
