import Mathlib.Data.List.Basic

namespace RustDcp
set_option autoImplicit true

/-- A program that talks to its environment. It ends with a result, or it issues a command and goes
on with the reply. -/
inductive Dialogue {Command : Type} (Reply : Command → Type) (ε α : Type) where
  | done (result : Except ε α)
  | ask (command : Command) (next : Reply command → Dialogue Reply ε α)

structure Exchange {Command : Type} (Reply : Command → Type) where
  command : Command
  reply : Reply command

namespace Dialogue

variable {Command : Type} {Reply : Command → Type}

/-- An error ends the whole program. -/
def bind : Dialogue Reply ε α → (α → Dialogue Reply ε β) → Dialogue Reply ε β
  | .done (.ok a), f => f a
  | .done (.error error), _ => .done (.error error)
  | .ask command next, f => .ask command fun reply => (next reply).bind f

instance : Monad (Dialogue Reply ε) where
  pure a := .done (.ok a)
  bind := Dialogue.bind

instance : MonadLift (Except ε) (Dialogue Reply ε) := ⟨.done⟩

theorem bind_assoc (d : Dialogue Reply ε α) (f : α → Dialogue Reply ε β)
    (g : β → Dialogue Reply ε γ) : d >>= f >>= g = d >>= fun a => f a >>= g := by
  induction d with
  | done result =>
    cases result with
    | error error => rfl
    | ok a => rfl
  | ask command next ih => exact congrArg (ask command) (funext ih)

def attempt : Dialogue Reply ε α → Dialogue Reply ε' (Except ε α)
  | .done result => .done (.ok result)
  | .ask command next => .ask command fun reply => (next reply).attempt

instance : MonadExceptOf ε (Dialogue Reply ε) where
  throw error := .done (.error error)
  tryCatch d handler := do
    match ← d.attempt with
    | .ok a => pure a
    | .error error => handler error

def mapError (f : ε → ε') (d : Dialogue Reply ε α) : Dialogue Reply ε' α := do
  let result ← d.attempt
  result.mapError f

/-- The logs that a run can leave, against any environment, with the result of the run. -/
def Path : Dialogue Reply ε α → List (Exchange Reply) → Except ε α → Prop
  | .done result, log, outcome => log = [] ∧ outcome = result
  | .ask command next, log, outcome =>
    ∃ reply rest, log = ⟨command, reply⟩ :: rest ∧ (next reply).Path rest outcome

def Issues (P : Command → Prop) : Dialogue Reply ε α → Prop
  | .done _ => True
  | .ask command next => P command ∧ ∀ reply, (next reply).Issues P

/-- The run against one environment: the result, the log and the environment's state. -/
def conduct (handle : σ → (command : Command) → Reply command × σ) :
    Dialogue Reply ε α → σ → Except ε α × List (Exchange Reply) × σ
  | .done result, s => (result, [], s)
  | .ask command next, s =>
    let answered := handle s command
    let ended := (next answered.1).conduct handle answered.2
    (ended.1, ⟨command, answered.1⟩ :: ended.2.1, ended.2.2)

theorem conduct_path {handle : σ → (command : Command) → Reply command × σ}
    {d : Dialogue Reply ε α} (h : d.conduct handle s = (result, log, t)) : d.Path log result := by
  induction d generalizing s result log t with
  | done ended =>
    cases h
    exact ⟨rfl, rfl⟩
  | ask command next ih =>
    cases h
    exact ⟨_, _, rfl, ih _ rfl⟩

theorem Issues.path {d : Dialogue Reply ε α} (h : d.Issues P) (hpath : d.Path log outcome) :
    ∀ exchange ∈ log, P exchange.command := by
  induction d generalizing log with
  | done result =>
    obtain ⟨rfl, -⟩ := hpath
    simp
  | ask command next ih =>
    obtain ⟨reply, rest, rfl, hpath⟩ := hpath
    rw [List.forall_mem_cons]
    exact ⟨h.1, ih reply (h.2 reply) hpath⟩

theorem Issues.bind {d : Dialogue Reply ε α} {f : α → Dialogue Reply ε β} (hd : d.Issues P)
    (hf : ∀ a, (f a).Issues P) : (d >>= f).Issues P := by
  induction d with
  | done result =>
    cases result with
    | error error => trivial
    | ok a => exact hf a
  | ask command next ih => exact ⟨hd.1, fun reply => ih reply (hd.2 reply)⟩

theorem Issues.attempt {d : Dialogue Reply ε α} (h : d.Issues P) :
    (d.attempt : Dialogue Reply ε' (Except ε α)).Issues P := by
  induction d with
  | done result => trivial
  | ask command next ih => exact ⟨h.1, fun reply => ih reply (h.2 reply)⟩

/-- A property of the commands in all logs is one of the program. -/
theorem Issues.of_path (hreply : ∀ command, Nonempty (Reply command)) {d : Dialogue Reply ε α}
    (h : ∀ log outcome, d.Path log outcome → ∀ exchange ∈ log, P exchange.command) :
    d.Issues P := by
  have hpath : ∀ d : Dialogue Reply ε α, ∃ log outcome, d.Path log outcome := by
    intro d
    induction d with
    | done result => exact ⟨[], result, rfl, rfl⟩
    | ask command next ih =>
      obtain ⟨reply⟩ := hreply command
      obtain ⟨log, outcome, hnext⟩ := ih reply
      exact ⟨⟨command, reply⟩ :: log, outcome, reply, log, rfl, hnext⟩
  induction d with
  | done result => trivial
  | ask command next ih =>
    have hlater : ∀ reply log outcome, (next reply).Path log outcome →
        ∀ exchange ∈ ⟨command, reply⟩ :: log, P exchange.command :=
      fun reply log outcome hnext => h _ outcome ⟨reply, log, rfl, hnext⟩
    constructor
    · obtain ⟨reply⟩ := hreply command
      obtain ⟨log, outcome, hnext⟩ := hpath (next reply)
      exact hlater reply log outcome hnext _ List.mem_cons_self
    · exact fun reply => ih reply fun log outcome hnext exchange hmem =>
        hlater reply log outcome hnext exchange (List.mem_cons_of_mem _ hmem)

theorem Issues.lift_bind {result : Except ε α} {f : α → Dialogue Reply ε β}
    (hf : ∀ a, result = .ok a → (f a).Issues P) :
    ((liftM result : Dialogue Reply ε α) >>= f).Issues P := by
  cases result with
  | error error => trivial
  | ok a => exact hf a rfl

theorem path_done {outcome : Except ε α} :
    (done result : Dialogue Reply ε α).Path log outcome ↔ log = [] ∧ outcome = result :=
  Iff.rfl

theorem path_pure {outcome : Except ε α} :
    (pure a : Dialogue Reply ε α).Path log outcome ↔ log = [] ∧ outcome = .ok a :=
  Iff.rfl

/-- A run of a sequence is a run of the first part, which may end it, and then one of the second. -/
theorem path_bind {d : Dialogue Reply ε α} {f : α → Dialogue Reply ε β} :
    (d >>= f).Path log outcome ↔
      (∃ a first second, log = first ++ second ∧ d.Path first (.ok a) ∧
        (f a).Path second outcome) ∨
      ∃ error, d.Path log (.error error) ∧ outcome = .error error := by
  induction d generalizing log with
  | done result =>
    cases result with
    | error error =>
      constructor
      · rintro ⟨rfl, rfl⟩
        exact .inr ⟨error, ⟨rfl, rfl⟩, rfl⟩
      · rintro (⟨a, first, second, -, ⟨-, h⟩, -⟩ | ⟨error', ⟨rfl, h⟩, rfl⟩)
        · cases h
        · cases h
          exact ⟨rfl, rfl⟩
    | ok a =>
      constructor
      · intro h
        exact .inl ⟨a, [], log, rfl, ⟨rfl, rfl⟩, h⟩
      · rintro (⟨b, first, second, rfl, ⟨rfl, hb⟩, h⟩ | ⟨error, ⟨-, h⟩, -⟩)
        · cases hb
          exact h
        · cases h
  | ask command next ih =>
    constructor
    · rintro ⟨reply, rest, rfl, h⟩
      rcases (ih reply).1 h with ⟨a, first, second, rfl, hfirst, hsecond⟩ | ⟨error, herror, rfl⟩
      · exact .inl ⟨a, _, second, rfl, ⟨reply, first, rfl, hfirst⟩, hsecond⟩
      · exact .inr ⟨error, ⟨reply, rest, rfl, herror⟩, rfl⟩
    · rintro (⟨a, first, second, rfl, ⟨reply, rest, rfl, hfirst⟩, hsecond⟩ |
        ⟨error, ⟨reply, rest, rfl, herror⟩, rfl⟩)
      · exact ⟨reply, rest ++ second, rfl, (ih reply).2
          (.inl ⟨a, rest, second, rfl, hfirst, hsecond⟩)⟩
      · exact ⟨reply, rest, rfl, (ih reply).2 (.inr ⟨error, herror, rfl⟩)⟩

theorem path_bind_ok {d : Dialogue Reply ε α} {f : α → Dialogue Reply ε β} :
    (d >>= f).Path log (.ok b) ↔ ∃ a first second, log = first ++ second ∧ d.Path first (.ok a) ∧
      (f a).Path second (.ok b) := by
  simp [path_bind]

theorem path_lift {result outcome : Except ε α} :
    (liftM result : Dialogue Reply ε α).Path log outcome ↔ log = [] ∧ outcome = result :=
  Iff.rfl

theorem path_lift_bind {result : Except ε α} {f : α → Dialogue Reply ε β} :
    ((liftM result : Dialogue Reply ε α) >>= f).Path log outcome ↔
      (∃ a, result = .ok a ∧ (f a).Path log outcome) ∨
        ∃ error, result = .error error ∧ log = [] ∧ outcome = .error error := by
  constructor
  · intro h
    cases result with
    | ok a => exact .inl ⟨a, rfl, h⟩
    | error error => exact .inr ⟨error, rfl, h⟩
  · rintro (⟨a, rfl, h⟩ | ⟨error, rfl, h⟩)
    · exact h
    · exact h

theorem path_lift_bind_ok {result : Except ε α} {f : α → Dialogue Reply ε β} :
    ((liftM result : Dialogue Reply ε α) >>= f).Path log (.ok b) ↔
      ∃ a, result = .ok a ∧ (f a).Path log (.ok b) := by
  simp [path_lift_bind]

theorem path_attempt {d : Dialogue Reply ε α} {outcome : Except ε' (Except ε α)} :
    d.attempt.Path log outcome ↔ ∃ result, d.Path log result ∧ outcome = .ok result := by
  induction d generalizing log with
  | done ended =>
    constructor
    · rintro ⟨rfl, rfl⟩
      exact ⟨ended, ⟨rfl, rfl⟩, rfl⟩
    · rintro ⟨result, ⟨rfl, rfl⟩, rfl⟩
      exact ⟨rfl, rfl⟩
  | ask command next ih =>
    constructor
    · rintro ⟨reply, rest, rfl, h⟩
      obtain ⟨result, hresult, rfl⟩ := (ih reply).1 h
      exact ⟨result, ⟨reply, rest, rfl, hresult⟩, rfl⟩
    · rintro ⟨result, ⟨reply, rest, rfl, hresult⟩, rfl⟩
      exact ⟨reply, rest, rfl, (ih reply).2 ⟨result, hresult, rfl⟩⟩

def Yields (A : Exchange Reply → Prop) (d : Dialogue Reply ε α) (result : Except ε α) : Prop :=
  ∀ log outcome, (∀ exchange ∈ log, A exchange) → d.Path log outcome → outcome = result

theorem Yields.lift (result : Except ε α) : Yields A (liftM result : Dialogue Reply ε α) result :=
  fun _ _ _ hpath => (path_lift.1 hpath).2

theorem Yields.bind {d : Dialogue Reply ε α} {f : α → Dialogue Reply ε β} (hd : d.Yields A first)
    (hok : ∀ a, first = .ok a → (f a).Yields A result)
    (herror : ∀ error, first = .error error → result = .error error) :
    (d >>= f).Yields A result := by
  intro log outcome hlog hpath
  rcases path_bind.1 hpath with ⟨a, before, after, rfl, hbefore, hafter⟩ | ⟨error, hbefore, rfl⟩
  · rw [List.forall_mem_append] at hlog
    exact hok a (hd _ _ hlog.1 hbefore).symm _ _ hlog.2 hafter
  · exact (herror error (hd _ _ hlog hbefore).symm).symm

theorem Yields.seq {d : Dialogue Reply ε α} {f : α → Dialogue Reply ε β} (hd : d.Yields A first)
    (hf : ∀ a, first = .ok a → (f a).Yields A (g a)) : (d >>= f).Yields A (first >>= g) := by
  refine hd.bind ?_ ?_
  · rintro a rfl
    exact hf a rfl
  · rintro error rfl
    rfl

/-- Every run whose exchanges all have the property `A` goes through silent exchanges until it ends
idle, or until an exchange decides its result. -/
def Settles (A silent : Exchange Reply → Prop) (decided : Exchange Reply → Except ε α → Prop)
    (idle : Except ε α → Prop) : Dialogue Reply ε α → Prop
  | .done result => idle result
  | .ask command next => ∀ reply, A ⟨command, reply⟩ →
    silent ⟨command, reply⟩ ∧ (next reply).Settles A silent decided idle ∨
      ∃ result, next reply = .done result ∧ decided ⟨command, reply⟩ result

namespace Settles

variable {A silent : Exchange Reply → Prop}

theorem mono {d : Dialogue Reply ε α} (h : d.Settles A silent decided idle)
    (hdecided : ∀ exchange result, A exchange → decided exchange result →
      decided' exchange result) (hidle : ∀ result, idle result → idle' result) :
    d.Settles A silent decided' idle' := by
  induction d with
  | done result => exact hidle result h
  | ask command next ih =>
    intro reply hreply
    rcases h reply hreply with ⟨hsilent, hnext⟩ | ⟨result, hnext, hresult⟩
    · exact .inl ⟨hsilent, ih reply hnext⟩
    · exact .inr ⟨result, hnext, hdecided _ _ hreply hresult⟩

theorem of_issues {d : Dialogue Reply ε α} (h : d.Issues P)
    (hsilent : ∀ command reply, P command → silent ⟨command, reply⟩) :
    d.Settles A silent decided fun _ => True := by
  induction d with
  | done result => trivial
  | ask command next ih =>
    intro reply _
    exact .inl ⟨hsilent command reply h.1, ih reply (h.2 reply)⟩

/-- A sequence settles if its second part settles after an idle end of the first one, and ends after
a decision. -/
theorem bind {d : Dialogue Reply ε α} {f : α → Dialogue Reply ε β}
    (hd : d.Settles A silent decided idle)
    (hidle : ∀ result, idle result →
      ((liftM result : Dialogue Reply ε α) >>= f).Settles A silent decided' idle')
    (hdecided : ∀ exchange result, A exchange → decided exchange result →
      ∃ last, (liftM result : Dialogue Reply ε α) >>= f = done last ∧ decided' exchange last) :
    (d >>= f).Settles A silent decided' idle' := by
  induction d with
  | done result => exact hidle result hd
  | ask command next ih =>
    intro reply hreply
    rcases hd reply hreply with ⟨hsilent, hnext⟩ | ⟨result, hnext, hresult⟩
    · exact .inl ⟨hsilent, ih reply hnext⟩
    · obtain ⟨last, hlast, hdone⟩ := hdecided _ _ hreply hresult
      exact .inr ⟨last, (congrArg (Dialogue.bind · f) hnext).trans hlast, hdone⟩

theorem silent_bind {Q : α → Prop} {d : Dialogue Reply ε α} {f : α → Dialogue Reply ε β}
    (hd : d.Settles A silent (fun _ _ => False) fun result => ∀ a, result = .ok a → Q a)
    (herror : ∀ error, idle (.error error))
    (hf : ∀ a, Q a → (f a).Settles A silent decided idle) :
    (d >>= f).Settles A silent decided idle := by
  refine hd.bind ?_ fun _ _ _ hfalse => hfalse.elim
  intro result hresult
  cases result with
  | error error => exact herror error
  | ok a => exact hf a (hresult a rfl)

theorem lift_bind {result : Except ε α} {f : α → Dialogue Reply ε β}
    (herror : ∀ error, idle (.error error))
    (hf : ∀ a, result = .ok a → (f a).Settles A silent decided idle) :
    ((liftM result : Dialogue Reply ε α) >>= f).Settles A silent decided idle := by
  cases result with
  | error error => exact herror error
  | ok a => exact hf a rfl

theorem mapError {d : Dialogue Reply ε α} {f : ε → ε'} (hd : d.Settles A silent decided idle)
    (hidle : ∀ result, idle result → idle' (result.mapError f))
    (hdecided : ∀ exchange result, decided exchange result →
      decided' exchange (result.mapError f)) :
    (d.mapError f).Settles A silent decided' idle' := by
  induction d with
  | done result => exact hidle result hd
  | ask command next ih =>
    intro reply hreply
    rcases hd reply hreply with ⟨hsilent, hnext⟩ | ⟨result, hnext, hresult⟩
    · exact .inl ⟨hsilent, ih reply hnext⟩
    · exact .inr ⟨_, congrArg (Dialogue.mapError f) hnext, hdecided _ _ hresult⟩

theorem of_bind_ask {d : Dialogue Reply ε α} {f : α → Dialogue Reply ε β}
    (hd : d.Settles A silent decided fun result => ∃ error, result = .error error)
    (h : d >>= f = ask command next) (hreply : A ⟨command, reply⟩) :
    silent ⟨command, reply⟩ ∧ (∃ later, later.Settles A silent decided
        (fun result => ∃ error, result = .error error) ∧ next reply = later >>= f) ∨
      ∃ result, next reply = (liftM result : Dialogue Reply ε α) >>= f ∧
        decided ⟨command, reply⟩ result := by
  match d, hd, h with
  | done (.ok a), hd, _ =>
    obtain ⟨error, herror⟩ := hd
    cases herror
  | ask _ nextFirst, hd, h =>
    have hask : ask command next = ask _ fun reply => nextFirst reply >>= f := h.symm
    cases hask
    rcases hd reply hreply with ⟨hsilent, hnext⟩ | ⟨result, hnext, hresult⟩
    · exact .inl ⟨hsilent, nextFirst reply, hnext, rfl⟩
    · exact .inr ⟨result, congrArg (· >>= f) hnext, hresult⟩

theorem of_bind_done {d : Dialogue Reply ε α} {f : α → Dialogue Reply ε β}
    (hd : d.Settles A silent decided fun result => ∃ error, result = .error error)
    (h : d >>= f = done result) : ∃ error, result = .error error := by
  match d, hd, h with
  | done (.ok a), hd, _ =>
    obtain ⟨error, herror⟩ := hd
    cases herror
  | done (.error error), _, h =>
    cases h
    exact ⟨error, rfl⟩

theorem path {d : Dialogue Reply ε α} (h : d.Settles A silent decided idle)
    (hpath : d.Path log outcome) (hlog : ∀ exchange ∈ log, A exchange) :
    (∀ exchange ∈ log, silent exchange) ∧ idle outcome ∨
      ∃ before last, log = before ++ [last] ∧ (∀ exchange ∈ before, silent exchange) ∧
        decided last outcome := by
  induction d generalizing log with
  | done result =>
    obtain ⟨rfl, rfl⟩ := hpath
    exact .inl ⟨by simp, h⟩
  | ask command next ih =>
    obtain ⟨reply, rest, rfl, hpath⟩ := hpath
    obtain ⟨hfirst, hrest⟩ := List.forall_mem_cons.1 hlog
    rcases h reply hfirst with ⟨hsilent, hnext⟩ | ⟨result, hnext, hresult⟩
    · rcases ih reply hnext hpath hrest with ⟨hall, hidle⟩ | ⟨before, last, rfl, hbefore, hlast⟩
      · exact .inl ⟨List.forall_mem_cons.2 ⟨hsilent, hall⟩, hidle⟩
      · exact .inr ⟨_ :: before, last, rfl, List.forall_mem_cons.2 ⟨hsilent, hbefore⟩, hlast⟩
    · rw [hnext] at hpath
      obtain ⟨rfl, rfl⟩ := hpath
      exact .inr ⟨[], _, rfl, by simp, hresult⟩

end Settles

end Dialogue

end RustDcp
