import DidRegistry.Proofs.Publisher.Submit

/-!
# What a publisher keeps in mind

The hash that is kept after a dialogue is to be the one under which a transaction was accepted last:
in the dialogue, or before it when none was accepted in it.  A dialogue for which that is so whatever
happens recalls what it submits.

## Results

* `Dialogue.Recalls.bind` — dialogues that recall what they submit may go on after each other.
* `Publisher.asks_publication`, `Publisher.asks_isFree` — what a publisher asks for.
* `Publisher.recalls_publish` — **publishing recalls what it submits**, on every way out: before the
  submission, with it, and at each poll and sleep of the wait after it.
-/

set_option autoImplicit false

namespace DidRegistry

namespace Dialogue

variable {α β : Type}

/-- Whatever course a dialogue takes, the hash kept after it is that of the latest transaction that was
accepted in it, or the one kept before when none was. -/
def Recalls (d : Dialogue α) : Prop :=
  ∀ (m : Memory) (hs : List Happening) (e : Ending α) (m' : Memory), d.Course m hs e m' →
    m'.last = (acceptedIn hs).getLast?.or m.last

theorem Recalls.course {d : Dialogue α} {m m' : Memory} {hs : List Happening} {e : Ending α}
    (hd : d.Recalls) (h : d.Course m hs e m') : m'.last = (acceptedIn hs).getLast?.or m.last :=
  hd m hs e m' h

theorem Recalls.of_quiet {d : Dialogue α} (hd : d.Quiet) : d.Recalls := by
  intro m hs e m' h
  obtain ⟨hn, hm⟩ := hd.course h
  rw [acceptedIn_eq_nil hn, hm]
  rfl

theorem Recalls.done (a : α) : Recalls (.done a) := of_quiet (.done a)

theorem Recalls.bind {d : Dialogue α} {f : α → Dialogue β} (hd : d.Recalls) (hf : ∀ a, (f a).Recalls) :
    (d.bind f).Recalls := by
  intro m hs e m' h
  rcases course_bind h with ⟨a, hs₁, hs₂, m₁, rfl, h₁, h₂⟩ | ⟨h₁, -⟩
  · rw [(hf a).course h₂, hd.course h₁, acceptedIn_append, List.getLast?_append, Option.or_assoc]
  · exact hd.course h₁

end Dialogue

namespace Publisher

open Dialogue

variable {p : Publisher}

/-! ### What a publisher asks for -/

section

variable {P : Ask → Prop} {hash : Json}

theorem asks_await (hr : (p.ledger.receipt hash).Asks P) (hs : ∀ seconds, P (.sleep seconds)) :
    ∀ left poll, (p.await hash left poll).Asks P
  | 0, _ => .done _
  | left + 1, poll => by
    refine hr.bind fun a => ?_
    split
    · exact .done _
    · exact .done _
    · exact .done _
    · split
      · exact .done _
      · exact .ask (hs _) fun _ => asks_await hr hs left (poll + 1)

theorem asks_awaitAll (hr : (p.ledger.receipt hash).Asks P) (hs : ∀ seconds, P (.sleep seconds)) :
    (p.awaitAll hash).Asks P := by
  unfold awaitAll
  split
  · exact asks_await hr hs _ _
  · exact .done _

/-- Publishing sends the call that is planned, keeps a hash, and waits for its receipt. -/
theorem asks_publication [Platform] {payload : List UInt8} {memo : Json}
    (hsend : ∀ call, p.plan payload = .ok call → (p.ledger.send (.obj call.toMembers)).Asks P)
    (hkeep : ∀ hash, P (.remember hash)) (hwait : ∀ hash, (p.awaitAll hash).Asks P) :
    (p.publish payload memo).Asks P := by
  cases hc : p.plan payload with
  | error e =>
    rw [publish_of_error hc]
    exact .done _
  | ok call =>
    rw [publish_eq hc]
    refine (hsend call hc).bind fun a => ?_
    split
    · exact .done _
    · exact .ask (hkeep _) fun _ => hwait _

/-- Whether an earlier write is still settling is found out from the hash that is kept. -/
theorem asks_isFree (hlast : P .lastHash)
    (h : ∀ hash, (p.ledger.isSettled (.ofNumber p.settings.depth) hash).Asks P) : p.isFree.Asks P := by
  refine .ask hlast fun last => ?_
  cases last with
  | none => exact .done _
  | some hash => exact h hash

end

theorem quiet_awaitAll (hl : p.ledger.IsClient) (hash : Json) : (p.awaitAll hash).Quiet :=
  asks_awaitAll (Inquires.quiet (hl.inquires.receipt hash)) fun _ => rfl

/-- **Publishing recalls what it submits.** -/
theorem recalls_publish [Platform] (hl : p.ledger.IsClient) (payload : List UInt8) (memo : Json) :
    (p.publish payload memo).Recalls := by
  cases hc : p.plan payload with
  | error e =>
    rw [publish_of_error hc]
    exact Recalls.done _
  | ok call =>
    rw [publish_eq hc]
    intro m hs e m' h
    rcases course_bind h with ⟨a, hs₁, hs₂, m₁, rfl, h₁, h₂⟩ | ⟨h₁, -⟩
    · obtain ⟨hm, ha⟩ := Ledger.course_send hl h₁
      rw [acceptedIn_append, ha, Ending.accepted?]
      cases hv : Attempt.accepted? a with
      | none =>
        -- nothing was accepted, and nothing is kept
        obtain ⟨e', he, -⟩ := verdict_of_not_accepted memo hv
        rw [he] at h₂
        obtain ⟨rfl, -, rfl⟩ := course_done h₂
        exact hm
      | some hash =>
        -- the hash is kept before the wait, which leaves it as it is
        rw [verdict_of_accepted memo hv] at h₂
        obtain ⟨hq, hk⟩ := (quiet_awaitAll hl hash).course (course_remember h₂)
        rw [hk, acceptedIn_eq_nil hq]
        rfl
    · obtain ⟨hm, ha⟩ := Ledger.course_send hl h₁
      rw [ha, hm]
      rfl

theorem inquires_isFree (hl : p.ledger.IsClient) : p.isFree.Inquires :=
  asks_isFree rfl fun hash => hl.inquires.isSettled _ hash

end Publisher

end DidRegistry
