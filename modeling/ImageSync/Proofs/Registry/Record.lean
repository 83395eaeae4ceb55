import ImageSync.Registry.Token

/-!
# Records of talks

A network can write down what is sent and what comes of it. Nobody who talks through it notices: the
results are the same. So what a talk sends can be told from its record.

## Main definitions

* `Exchange`: a request that was sent, and what came of it.
* `Network.recording n`: the network `n` with a record.
* `Talk.Records x y P`: what the talk `x` gives and what `y`, the same talk with a record, writes
  down.

## Main statements

* `Talk.Records.bind`: one talk behind another.
* `Network.exists_sent`: a request and its record.
* `Talk.records_ask`, `Talk.records_ask_bind`: a single request, and what is talked behind it.
* `Talk.records_note_bind`: a line of the log is no part of a record.
-/

namespace ImageSync

open Http

/-- A request that was sent, and what came of it. -/
structure Exchange where
  request : Request
  outcome : Except Unanswered Response

/-- The same network with a record of all exchanges. -/
def Http.Network.recording {σ : Type} (n : Network σ) : Network (σ × List Exchange) where
  exchange r s := ((n.exchange r s.1).1, (n.exchange r s.1).2, s.2 ++ [⟨r, (n.exchange r s.1).1⟩])
  note line s := (n.note line s.1, s.2)

/-- What comes of a request, with the exchange if it was sent. -/
inductive Sent (r : Request) : Except Unanswered Response → List Exchange → Prop
  | unsent {f : Unanswered} (h : Network.fault? r = some f) : Sent r (.error f) []
  | sent {outcome : Except Unanswered Response} (h : Network.fault? r = none) :
    Sent r outcome [⟨r, outcome⟩]

namespace Sent

variable {r : Request} {record : List Exchange}

/-- An answer comes to a request that was sent. -/
theorem eq_of_ok {answer : Response} (h : Sent r (.ok answer) record) :
    record = [⟨r, .ok answer⟩] := by
  cases h
  rfl

theorem eq_of_mem {outcome : Except Unanswered Response} {x : Exchange} (h : Sent r outcome record)
    (hx : x ∈ record) : x = ⟨r, outcome⟩ := by
  cases h with
  | unsent => cases hx
  | sent => exact List.mem_singleton.1 hx

theorem length_le {outcome : Except Unanswered Response} (h : Sent r outcome record) :
    record.length ≤ 1 := by
  cases h <;> simp

end Sent

/-- A request is written down if it is sent. -/
theorem Http.Network.exists_sent {σ : Type} (n : Network σ) (r : Request) (s : σ)
    (record : List Exchange) :
    ∃ outcome s' new, n.send r s = (outcome, s') ∧
      n.recording.send r (s, record) = (outcome, s', record ++ new) ∧ Sent r outcome new := by
  cases hfault : fault? r with
  | some f =>
      refine ⟨.error f, s, [], n.send_of_fault hfault s, ?_, .unsent hfault⟩
      rw [n.recording.send_of_fault hfault, List.append_nil]
  | none =>
      refine ⟨(n.exchange r s).1, (n.exchange r s).2, _, n.send_of_sendable hfault s, ?_,
        .sent hfault⟩
      rw [n.recording.send_of_sendable hfault]
      rfl

namespace Talk

variable {σ α β : Type}

theorem run_bind (x : Talk σ α) (f : α → Talk σ β) (s : σ) :
    (x >>= f).run s =
      match x.run s with
      | (.ok a, s) => (f a).run s
      | (.error e, s) => (.error e, s) := by
  simp only [Bind.bind, ExceptT.bind, ExceptT.mk, ExceptT.run, StateT.bind]
  rcases x s with ⟨_ | _, s'⟩ <;> rfl

theorem run_ask (n : Network σ) (r : Request) (s : σ) :
    (ask n r).run s = (.ok (n.send r s).1, (n.send r s).2) := rfl

theorem exists_run_of_toOption {x : Talk σ α} {s : σ} {a : α}
    (h : (x.run s).1.toOption = some a) : ∃ s', x.run s = (.ok a, s') := by
  rcases hrun : x.run s with ⟨_ | b, s'⟩
  · rw [hrun] at h
    cases h
  · rw [hrun] at h
    cases h
    exact ⟨s', rfl⟩

/-- Two talks have the same results and leave the same state, and the second adds to a record what
fits to the result. -/
def Records (x : Talk σ α) (y : Talk (σ × List Exchange) α)
    (P : Except RegistryError α → List Exchange → Prop) : Prop :=
  ∀ s record, ∃ result s' new, x.run s = (result, s') ∧
    y.run (s, record) = (result, s', record ++ new) ∧ P result new

/-- What is said of records, for those that go on behind a first part. -/
abbrev Behind (first : List Exchange) (P : Except RegistryError α → List Exchange → Prop) :
    Except RegistryError α → List Exchange → Prop :=
  fun result rest => P result (first ++ rest)

namespace Records

variable {x : Talk σ α} {y : Talk (σ × List Exchange) α} {f : α → Talk σ β}
  {g : α → Talk (σ × List Exchange) β} {P Q : Except RegistryError α → List Exchange → Prop}
  {R : Except RegistryError β → List Exchange → Prop}

theorem mono (h : Records x y P) (hPQ : ∀ result new, P result new → Q result new) :
    Records x y Q := by
  intro s record
  obtain ⟨result, s', new, hx, hy, hP⟩ := h s record
  exact ⟨result, s', new, hx, hy, hPQ result new hP⟩

/-- A result that is known sends nothing. -/
theorem lift {result : Except RegistryError α} (h : P result []) :
    Records (σ := σ) (liftM result) (liftM result) P :=
  fun s record => ⟨result, s, [], rfl, by rw [List.append_nil]; rfl, h⟩

theorem pure {a : α} (h : P (.ok a) []) : Records (σ := σ) (Pure.pure a) (Pure.pure a) P :=
  lift h

theorem throw {e : RegistryError} (h : P (.error e) []) :
    Records (σ := σ) (MonadExcept.throw e) (MonadExcept.throw e) P := lift h

section

variable {first : List Exchange}

theorem lift_behind {result : Except RegistryError α} (h : P result first) :
    Records (σ := σ) (liftM result) (liftM result) (Behind first P) :=
  lift (by rwa [Behind, List.append_nil])

theorem pure_behind {a : α} (h : P (.ok a) first) :
    Records (σ := σ) (Pure.pure a) (Pure.pure a) (Behind first P) := lift_behind h

theorem throw_behind {e : RegistryError} (h : P (.error e) first) :
    Records (σ := σ) (MonadExcept.throw e) (MonadExcept.throw e) (Behind first P) := lift_behind h

end

/-- One talk behind another: an error ends both, and the records come one behind the other. -/
theorem bind (hx : Records x y P) (herror : ∀ e new, P (.error e) new → R (.error e) new)
    (hok : ∀ a first, P (.ok a) first → Records (f a) (g a) (Behind first R)) :
    Records (x >>= f) (y >>= g) R := by
  intro s record
  obtain ⟨result, s', first, hrun, hrecord, hP⟩ := hx s record
  cases result with
  | error e =>
      exact ⟨.error e, s', first, by rw [run_bind, hrun], by rw [run_bind, hrecord],
        herror e first hP⟩
  | ok a =>
      obtain ⟨result, s'', rest, hrun', hrecord', hR⟩ := hok a first hP s' (record ++ first)
      refine ⟨result, s'', first ++ rest, by rw [run_bind, hrun]; exact hrun', ?_, hR⟩
      rw [run_bind, hrecord, ← List.append_assoc]
      exact hrecord'

/-- A talk behind a result that is known. -/
theorem lift_bind {result : Except RegistryError α}
    (herror : ∀ e, result = .error e → R (.error e) [])
    (hok : ∀ a, result = .ok a → Records (f a) (g a) R) :
    Records (liftM result >>= f) (liftM result >>= g) R := by
  refine bind (P := fun r new => result = r ∧ new = []) (lift ⟨rfl, rfl⟩) (fun e new h => ?_)
    fun a new h => ?_
  · obtain ⟨h, rfl⟩ := h
    exact herror e h
  · obtain ⟨h, rfl⟩ := h
    exact hok a h

end Records

/-- A request gives what comes of it, if it is sent. -/
theorem records_ask (n : Network σ) (r : Request) : Records (ask n r) (ask n.recording r)
    fun result new => ∃ outcome, result = .ok outcome ∧ Sent r outcome new := by
  intro s record
  obtain ⟨outcome, s', new, hsend, hrecord, hsent⟩ := n.exists_sent r s record
  exact ⟨.ok outcome, s', new, by rw [run_ask, hsend], by rw [run_ask, hrecord], outcome, rfl, hsent⟩

/-- What is talked behind a request. -/
theorem records_ask_bind {n : Network σ} {r : Request} {f : Except Unanswered Response → Talk σ β}
    {g : Except Unanswered Response → Talk (σ × List Exchange) β}
    {R : Except RegistryError β → List Exchange → Prop}
    (h : ∀ outcome new, Sent r outcome new → Records (f outcome) (g outcome) (Behind new R)) :
    Records (ask n r >>= f) (ask n.recording r >>= g) R := by
  refine (records_ask n r).bind (fun e new herror => ?_) fun outcome new hok => ?_
  · obtain ⟨outcome, herror, -⟩ := herror
    cases herror
  · obtain ⟨outcome, hok, hsent⟩ := hok
    cases hok
    exact h outcome new hsent

/-- What is talked behind a line of the log. -/
theorem records_note_bind {n : Network σ} {level : Level} {text : String} {f : Unit → Talk σ β}
    {g : Unit → Talk (σ × List Exchange) β} {R : Except RegistryError β → List Exchange → Prop}
    (h : Records (f ()) (g ()) R) :
    Records (note n level text >>= f) (note n.recording level text >>= g) R :=
  fun s record => h (n.note ⟨level, text⟩ s) record

end Talk

end ImageSync
