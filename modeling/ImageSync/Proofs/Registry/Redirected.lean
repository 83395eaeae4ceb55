import ImageSync.Proofs.Registry.Record
import Mathlib.Data.List.Chain

/-!
# Requests that are sent on

A client that follows answers which send it on may send several requests for one of a talk. Each of
them goes where the answer before it points. Their number is bounded, and what is shown with the first
one is shown at its host and port only.

## Main definitions

* `Redirected steps r outcome record`: how a request can go with at most `steps` steps to other
  addresses.
* `Exchange.SendsOn x y`: whether the answer of `x` points to the request of `y`.

## Main statements

* `Network.following_sends`: what is sent for one request.
-/

namespace ImageSync

open Http

variable {σ : Type}

/-- Whether the answer of one exchange sends the asker on to the request of another one. -/
def Exchange.SendsOn (x y : Exchange) : Prop :=
  ∃ answer, x.outcome = .ok answer ∧ Network.nextRequest? x.request answer = some y.request

/-- How a request can go where answers that send the asker on are followed: its outcome, and what is
sent for it. -/
inductive Redirected :
    (steps : Nat) → Request → Except Unanswered Response → List Exchange → Prop
  | unanswered {steps : Nat} {r : Request} {f : Unanswered} {record : List Exchange}
      (h : Sent r (.error f) record) : Redirected steps r (.error f) record
  | answered {steps : Nat} {r : Request} {answer : Response} {record : List Exchange}
      (h : Sent r (.ok answer) record) (hnext : Network.nextRequest? r answer = none) :
      Redirected steps r (.ok answer) record
  | tooManySteps {r next : Request} {answer : Response} {record : List Exchange}
      (h : Sent r (.ok answer) record) (hnext : Network.nextRequest? r answer = some next) :
      Redirected 0 r (.error (.tooManySteps next.uri)) record
  | onward {steps : Nat} {r next : Request} {answer : Response}
      {outcome : Except Unanswered Response} {record rest : List Exchange}
      (h : Sent r (.ok answer) record) (hnext : Network.nextRequest? r answer = some next)
      (more : Redirected steps next outcome rest) : Redirected (steps + 1) r outcome (record ++ rest)

/-- A request that is followed goes by the rules. -/
theorem Http.Network.exists_redirected (n : Network σ) (steps : Nat) (r : Request) (s : σ)
    (record : List Exchange) :
    ∃ outcome s' new, n.follow steps r s = (outcome, s') ∧
      n.recording.follow steps r (s, record) = (outcome, s', record ++ new) ∧
      Redirected steps r outcome new := by
  obtain ⟨outcome, s', new, hsend, hrecord, hsent⟩ := n.exists_sent r s record
  rw [follow, follow, hsend, hrecord]
  cases outcome with
  | error f => exact ⟨.error f, s', new, rfl, rfl, .unanswered hsent⟩
  | ok answer =>
      cases hnext : nextRequest? r answer with
      | none =>
          exact ⟨.ok answer, s', new, by simp [hnext], by simp [hnext], .answered hsent hnext⟩
      | some next =>
          cases steps with
          | zero =>
              exact ⟨_, s', new, by simp [hnext], by simp [hnext], .tooManySteps hsent hnext⟩
          | succ steps =>
              obtain ⟨outcome, s'', rest, hmore, hrest, hredirected⟩ :=
                n.exists_redirected steps next s' (record ++ new)
              exact ⟨outcome, s'', new ++ rest, by simp [hnext, hmore], by simp [hnext, hrest],
                .onward hsent hnext hredirected⟩

/-- The authorization stays behind where host or port change. -/
theorem Http.Network.authorization_of_nextRequest? {r next : Request} {answer : Response}
    (h : nextRequest? r answer = some next) : next.authorization = [] ∨
      next.authorization = r.authorization ∧ next.uri.host = r.uri.host ∧
        next.uri.effectivePort? = r.uri.effectivePort? := by
  unfold nextRequest? at h
  split at h
  · split at h
    · next uri huri =>
      cases h
      dsimp only
      split
      · next hstays => exact .inr ⟨rfl, hstays⟩
      · exact .inl rfl
    · cases h
  · cases h

namespace Redirected

variable {steps : Nat} {r : Request} {outcome : Except Unanswered Response} {record : List Exchange}

theorem length_le (h : Redirected steps r outcome record) : record.length ≤ steps + 1 := by
  induction h with
  | unanswered h => exact h.length_le.trans (by omega)
  | answered h => exact h.length_le.trans (by omega)
  | tooManySteps h => exact h.length_le
  | onward h hnext more ih =>
      rw [h.eq_of_ok, List.length_append, List.length_singleton]
      omega

/-- The first request is the one that is asked for. -/
theorem request_of_mem_head? (h : Redirected steps r outcome record) :
    ∀ x ∈ record.head?, x.request = r := by
  intro x hx
  cases h with
  | unanswered h => rw [h.eq_of_mem (List.mem_of_mem_head? hx)]
  | answered h => rw [h.eq_of_mem (List.mem_of_mem_head? hx)]
  | tooManySteps h => rw [h.eq_of_mem (List.mem_of_mem_head? hx)]
  | onward h =>
      rw [h.eq_of_ok] at hx
      cases hx
      rfl

theorem isChain (h : Redirected steps r outcome record) : record.IsChain Exchange.SendsOn := by
  have hsent : ∀ {r : Request} {outcome : Except Unanswered Response} {record : List Exchange},
      Sent r outcome record → record.IsChain Exchange.SendsOn := by
    intro r outcome record hsent
    cases hsent with
    | unsent => exact .nil
    | sent => exact .singleton _
  induction h with
  | unanswered h => exact hsent h
  | answered h => exact hsent h
  | tooManySteps h => exact hsent h
  | onward h hnext more ih =>
      rw [h.eq_of_ok]
      refine List.isChain_cons.2 ⟨fun y hy => ⟨_, rfl, ?_⟩, ih⟩
      rw [more.request_of_mem_head? y hy]
      exact hnext

/-- What is shown with a request is shown at its host and port only. -/
theorem authorization_eq (h : Redirected steps r outcome record) :
    ∀ x ∈ record, x.request.authorization = [] ∨
      x.request.authorization = r.authorization ∧ x.request.uri.host = r.uri.host ∧
        x.request.uri.effectivePort? = r.uri.effectivePort? := by
  induction h with
  | unanswered h => exact fun x hx => .inr (by simp [h.eq_of_mem hx])
  | answered h => exact fun x hx => .inr (by simp [h.eq_of_mem hx])
  | tooManySteps h => exact fun x hx => .inr (by simp [h.eq_of_mem hx])
  | onward h hnext more ih =>
      intro x hx
      rcases List.mem_append.1 hx with hx | hx
      · exact .inr (by simp [h.eq_of_mem hx])
      · -- Behind a change of host or port nothing is shown any more.
        rcases ih x hx with hnone | ⟨hshown, hhost, hport⟩
        · exact .inl hnone
        · rcases Network.authorization_of_nextRequest? hnext with hnone | ⟨hkept, hhost', hport'⟩
          · exact .inl (hshown.trans hnone)
          · exact .inr ⟨hshown.trans hkept, hhost.trans hhost', hport.trans hport'⟩

end Redirected

/-- For one request at most eleven are sent, the first one as it is and each other one where the
answer before it points. What is shown with the first one is shown at its host and port only. -/
theorem Http.Network.following_sends (n : Network σ) (r : Request) (s : σ) :
    ∃ outcome s' record, n.following.exchange r s = (outcome, s') ∧
      n.recording.following.exchange r (s, []) = (outcome, s', record) ∧
      record.length ≤ maxSteps + 1 ∧ (∀ x ∈ record.head?, x.request = r) ∧
      record.IsChain Exchange.SendsOn ∧
      ∀ x ∈ record, x.request.authorization = [] ∨
        x.request.authorization = r.authorization ∧ x.request.uri.host = r.uri.host ∧
          x.request.uri.effectivePort? = r.uri.effectivePort? := by
  obtain ⟨outcome, s', record, hrun, hrecord, h⟩ := n.exists_redirected maxSteps r s []
  exact ⟨outcome, s', record, hrun, hrecord, h.length_le, h.request_of_mem_head?, h.isChain,
    h.authorization_eq⟩

end ImageSync
