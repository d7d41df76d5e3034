import DidRegistry.Platform.Usual
import DidRegistry.Proofs.Registry.Guards
import DidRegistry.Proofs.Session.Turn

/-!
# The hash of the last submission

Over a whole run of a session the hash that is kept is that of the latest transaction that was accepted
in the run, read off the replies alone.

## Results

* `Session.recalls_dialogue` — the step lemma: every step recalls what it submits, and one that
  publishes nothing leaves the kept hash as it is.
* `Session.turns_last` — the run lemma, from any memory, by induction on the steps that are played.
* `Session.last_eq_latest_accepted` — **after every turn of every run the kept hash is that of the latest
  transaction accepted in the run so far**; there is none exactly when none was accepted.
-/

set_option autoImplicit false

namespace DidRegistry

open Dialogue

/-- Whether a step hands a transaction to the ledger past the publisher. -/
def Step.isSend : Step → Bool
  | .send _ => true
  | _ => false

/-- Whether a step publishes nothing. -/
def Step.isReadOnly : Step → Bool
  | .publish _ _ | .publishGuarded _ _ _ | .send _ => false
  | _ => true

namespace Session

variable {s : Session}

theorem asks_reported {P : Ask → Prop} {ε α : Type} {report : ε → Report} {product : α → Product}
    {d : Dialogue (Except ε α)} (h : d.Asks P) : (reported report product d).Asks P :=
  h.bind fun _ => .done _

theorem recalls_reported {ε α : Type} {report : ε → Report} {product : α → Product}
    {d : Dialogue (Except ε α)} (h : d.Recalls) : (reported report product d).Recalls :=
  h.bind fun _ => .done _

theorem asks_dialogue [Platform] {P : Ask → Prop} (hl : s.registry.publisher.ledger.ReadsWithin P)
    (hq : Resolver.Allows P)
    (hlast : P .lastHash) {step : Step} (h : step.isReadOnly = true) : (s.dialogue step).Asks P := by
  cases step with
  | publish payload memo => cases h
  | publishGuarded subject op memo => cases h
  | send tx => cases h
  | isFree => exact asks_reported (Publisher.asks_isFree hlast fun hash => hl.isSettled _ hash)
  | standing hash => exact asks_reported (hl.standingAndDepth hash)
  | depth hash => exact asks_reported (hl.standingAndDepth hash)
  | isSettled hash depth => exact asks_reported (hl.isSettled _ hash)
  | receipt hash => exact asks_reported (hl.receipt hash)
  | transaction hash => exact asks_reported (hl.transaction hash)
  | height => exact asks_reported hl.height
  | biographyOfDid did all => exact asks_reported (Resolver.asks_biographyOfDid hq did all)
  | biographyOfCredential c => exact asks_reported (Resolver.asks_biographyOfCredential hq c)
  | documentOf did => exact asks_reported (Resolver.asks_documentOf hq did)
  | signingKey issuer key => exact asks_reported (s.keys.asks_signingKey hq issuer key)
  | verify policy now token => exact asks_reported (policy.asks_verify hq now token)

theorem inquires_dialogue [Platform] (hl : s.registry.publisher.ledger.IsClient) {step : Step}
    (h : step.isReadOnly = true) : (s.dialogue step).Inquires :=
  asks_dialogue hl.inquires Resolver.allows_inquiry rfl h

/-- Every step recalls what it submits. -/
theorem recalls_dialogue [Platform] (hl : s.registry.publisher.ledger.IsClient) {step : Step}
    (h : step.isSend = false) : (s.dialogue step).Recalls := by
  by_cases hr : step.isReadOnly = true
  · exact .of_quiet (inquires_dialogue hl hr).quiet
  · cases step with
    | publish payload memo => exact recalls_reported (Publisher.recalls_publish hl payload memo)
    | publishGuarded subject op memo =>
      exact recalls_reported (Registry.recalls_publishGuarded hl subject op memo)
    | send tx => cases h
    | _ => exact absurd rfl hr

/-- Before a turn the kept hash is that of the latest transaction accepted in the turns before it, or the
one from the start. -/
theorem turns_last [Platform] (hl : s.registry.publisher.ledger.IsClient) {plays : List (Step × Surroundings)}
    (hp : ∀ p ∈ plays, p.1.isSend = false) {start : Memory} {before after : List Turn} {t : Turn}
    (h : s.turns plays start = before ++ t :: after) :
    t.before.last = (acceptedIn (before.flatMap Turn.transcript)).getLast?.or start.last := by
  induction plays generalizing start before with
  | nil => simp [turns] at h
  | cons p r ih =>
    obtain ⟨step, w⟩ := p
    simp only [turns] at h
    cases before with
    | nil =>
      rw [List.nil_append, List.cons.injEq] at h
      rw [← h.1]
      rfl
    | cons x before =>
      rw [List.cons_append, List.cons.injEq] at h
      obtain ⟨rfl, h⟩ := h
      have hs : step.isSend = false := hp _ List.mem_cons_self
      have hx := (recalls_dialogue hl hs).course (turn_course w step start)
      rw [ih (fun q hq => hp q (List.mem_cons_of_mem _ hq)) h, hx, List.flatMap_cons,
        acceptedIn_append, List.getLast?_append, Option.or_assoc]

/-- **After every turn of every run the kept hash is that of the latest transaction accepted in the run so
far.**  So there is none exactly when none was accepted; a turn in which none was accepted leaves it as
it is, and so does every step that publishes nothing; and once there is one there always is. -/
theorem last_eq_latest_accepted [Platform] {s : Session} (hl : s.registry.publisher.ledger.IsClient)
    {plays : List (Step × Surroundings)} (hp : ∀ p ∈ plays, p.1.isSend = false)
    {before after : List Turn} {t : Turn} (h : s.turns plays .fresh = before ++ t :: after) :
    t.after.last = (acceptedIn ((before ++ [t]).flatMap Turn.transcript)).getLast? ∧
      (t.after.last = none ↔ ∀ x ∈ (before ++ [t]).flatMap Turn.transcript, x.accepted? = none) ∧
      ((∀ x ∈ t.transcript, x.accepted? = none) → t.after.last = t.before.last) ∧
      (t.step.isReadOnly = true →
        (∀ x ∈ t.transcript, x.isSubmission = false) ∧ t.after.last = t.before.last) ∧
      (t.before.last.isSome = true → t.after.last.isSome = true) := by
  have hmem : t ∈ s.turns plays .fresh := by rw [h]; simp
  obtain ⟨p, hpm, hps⟩ := turns_step hmem
  have hs : t.step.isSend = false := hps ▸ hp p hpm
  have hc := turns_course hmem
  have hb := turns_last hl hp h
  have ha := (recalls_dialogue hl hs).course hc
  have hlast : t.after.last = (acceptedIn ((before ++ [t]).flatMap Turn.transcript)).getLast? := by
    rw [ha, hb, List.flatMap_append, acceptedIn_append, List.getLast?_append]
    simp [Memory.fresh]
  refine ⟨hlast, ?_, fun hn => ?_, fun hr => (inquires_dialogue hl hr).quiet.course hc, fun hsome => ?_⟩
  · rw [hlast, List.getLast?_eq_none_iff]
    exact List.filterMap_eq_nil_iff
  · have hnil : acceptedIn t.transcript = [] := List.filterMap_eq_nil_iff.mpr hn
    rw [ha, hnil]
    rfl
  · rw [ha]
    cases (acceptedIn t.transcript).getLast? with
    | none => exact hsome
    | some hash => rfl

/-- A session that publishes through a ledger that is called without requests. -/
def sample : Session := ⟨Registry.sample, ⟨none, some []⟩⟩

/-- A write whose receipt never comes, and a guarded write after it. -/
def plays : List (Step × Surroundings) :=
  [(.publish [0x7b, 0x7d] .null, Publisher.unmined),
    (.publishGuarded (.str "did:elastos:abc") Registry.renewal.values .null, Publisher.unmined)]

section

attribute [local instance] Platform.usual

theorem last_eq_latest_accepted_sample :
    sample.registry.publisher.ledger.IsClient ∧ (∀ p ∈ plays, p.1.isSend = false) ∧
      ∃ t u, sample.turns plays .fresh = [t] ++ u :: [] ∧
        u.after.last = (acceptedIn (([t] ++ [u]).flatMap Turn.transcript)).getLast? := by
  have hp : ∀ p ∈ plays, p.1.isSend = false := by simp [plays, Step.isSend]
  exact ⟨.direct, hp, _, _, rfl, (last_eq_latest_accepted .direct hp rfl).1⟩

end

end Session

end DidRegistry
