import DidRegistry.Platform.Usual
import DidRegistry.Proofs.Publisher.Gate
import DidRegistry.Proofs.Registry.Guards
import DidRegistry.Proofs.Session.Turn

/-!
# Admission over whole runs

When a guarded step of a session begins with a hash kept, whatever earlier step has left it, the step
asks the node about that hash first, and the responses alone decide what may follow.

* `Session.Opened` — what has happened at the gate before anything is submitted.
* `Session.Admission` — the courses of such a step: past the gate anything may follow; at a gate that
  stays shut the step is over, with the hash as it was.

## Results

* `Session.publishGuarded_admission` — the step lemma, for every course of guarded publishing.
* `Session.turns_admission` — **in every turn of every run the gate fails closed**.
-/

set_option autoImplicit false

namespace DidRegistry.Session

open Dialogue

/-- The gate has let the step pass: the first thing that happened was a lookup of the hash, and the
response says that it is not known, or puts it in a block `b`, and then the node gave a highest block
`n` with `depth` blocks between the two. -/
def Opened (url : Text) (hash : Json) (depth : Number) (hs : List Happening) : Prop :=
  ∃ response rest, hs = .answered (lookup url hash) response :: rest ∧
    (sightingOf? response = some .unknown ∨
      ∃ b n answer rest', sightingOf? response = some (.inBlock b) ∧
        rest = .answered (headQuery url) answer :: rest' ∧ headOf? answer = some n ∧
        depth.le (.int (n - b)) = true)

/-- The courses of a guarded step that begins with `hash` kept: what happens in it, how it ends, and
which hash is kept after it. -/
inductive Admission (url : Text) (hash : Json) (depth : Number) :
    List Happening → Ending (Except Report Product) → Option Json → Prop where
  | unknown {response : Except Breakdown Json} {rest : List Happening}
      {e : Ending (Except Report Product)} {last : Option Json}
      (sighting : sightingOf? response = some .unknown) :
      Admission url hash depth (.answered (lookup url hash) response :: rest) e last
  | deep {response answer : Except Breakdown Json} {b n : Int} {rest : List Happening}
      {e : Ending (Except Report Product)} {last : Option Json}
      (sighting : sightingOf? response = some (.inBlock b)) (head : headOf? answer = some n)
      (deep : depth.le (.int (n - b)) = true) :
      Admission url hash depth
        (.answered (lookup url hash) response :: .answered (headQuery url) answer :: rest) e last
  /-- The transaction waits for its block. -/
  | pending {response : Except Breakdown Json} {report : Report}
      (sighting : sightingOf? response = some .pending)
      (busy : report = (RegistryError.busy (some hash)).report) (kind : report.kind = .busy) :
      Admission url hash depth [.answered (lookup url hash) response] (.finished (.error report))
        (some hash)
  /-- The transaction does not lie deep enough. -/
  | shallow {response answer : Except Breakdown Json} {b n : Int} {report : Report}
      (sighting : sightingOf? response = some (.inBlock b)) (head : headOf? answer = some n)
      (shallow : depth.le (.int (n - b)) = false)
      (busy : report = (RegistryError.busy (some hash)).report) (kind : report.kind = .busy) :
      Admission url hash depth
        [.answered (lookup url hash) response, .answered (headQuery url) answer]
        (.finished (.error report)) (some hash)
  /-- The lookup breaks down, or its response is an error or malformed. -/
  | unreadable {response : Except Breakdown Json} {report : Report}
      (sighting : sightingOf? response = none) (kind : report.kind = .confirmationQuery) :
      Admission url hash depth [.answered (lookup url hash) response] (.finished (.error report))
        (some hash)
  /-- The query for the highest block breaks down, or its response is an error or malformed. -/
  | headless {response answer : Except Breakdown Json} {b : Int} {report : Report}
      (sighting : sightingOf? response = some (.inBlock b)) (head : headOf? answer = none)
      (kind : report.kind = .confirmationQuery) :
      Admission url hash depth
        [.answered (lookup url hash) response, .answered (headQuery url) answer]
        (.finished (.error report)) (some hash)
  /-- It is cancelled while the lookup is not answered. -/
  | abandoned : Admission url hash depth [.abandoned (lookup url hash)] .cancelled (some hash)
  /-- It is cancelled while the query for the highest block is not answered. -/
  | headAbandoned {response : Except Breakdown Json} {b : Int}
      (sighting : sightingOf? response = some (.inBlock b)) :
      Admission url hash depth
        [.answered (lookup url hash) response, .abandoned (headQuery url)] .cancelled (some hash)

/-- Nothing is submitted but past the gate. -/
theorem Admission.opened {url : Text} {hash : Json} {depth : Number} {hs : List Happening}
    {e : Ending (Except Report Product)} {last : Option Json}
    (h : Admission url hash depth hs e last) (hsub : ∃ x ∈ hs, x.isSubmission = true) :
    Opened url hash depth hs := by
  have hlookup : Ask.isSubmission (.call (lookup url hash)) = false := rfl
  have hhead : Ask.isSubmission (.call (headQuery url)) = false := rfl
  obtain ⟨x, hx, hsub⟩ := hsub
  cases h with
  | unknown sighting => exact ⟨_, _, rfl, .inl sighting⟩
  | deep sighting head deep => exact ⟨_, _, rfl, .inr ⟨_, _, _, _, sighting, rfl, head, deep⟩⟩
  | _ =>
    simp only [List.mem_cons, List.not_mem_nil, or_false] at hx
    rcases hx with rfl | rfl <;>
      simp [Happening.isSubmission, Happening.ask, hlookup, hhead] at hsub

variable {url : Text} {hash : Json} {m m' : Memory} {hs : List Happening}

theorem goOn_shut [Platform] {r : Registry} {subject memo : Json} {op : Operation Json}
    (hm : m.last = some hash)
    {e : Ending (Except RegistryError Publication)}
    (h : (r.goOn subject op memo (.ok false)).Course m hs e m') :
    hs = [] ∧ e = .finished (.error (.busy (some hash))) ∧ m'.last = some hash := by
  have hb := course_lastHash h
  obtain ⟨rfl, rfl, rfl⟩ := course_done hb
  exact ⟨rfl, by rw [hm], hm⟩

/-- **Guarded publishing with a hash kept takes one of the courses of admission.** -/
theorem publishGuarded_admission [Platform] {s : Session} (hl : s.registry.publisher.ledger = .ofNode url)
    (hm : m.last = some hash) {subject memo : Json} {op : Operation Json}
    {e : Ending (Except Report Product)}
    (h : (s.dialogue (.publishGuarded subject op memo)).Course m hs e m') :
    Admission url hash s.registry.publisher.settings.depth hs e m'.last := by
  obtain ⟨e', hd, rfl⟩ := course_reported h
  have hi : s.registry.publisher.isFree.Inquires :=
    Publisher.inquires_isFree (hl ▸ Ledger.IsClient.ofNode url)
  rw [Registry.publishGuarded_eq] at hd
  rcases course_bind hd with ⟨a, hs₁, hs₂, m₁, rfl, h₁, h₂⟩ | ⟨h₁, rfl⟩
  · have hm₁ : m₁.last = some hash := (hi.quiet.course h₁).2.trans hm
    generalize he : (Ending.finished a : Ending (Except StandingError Bool)) = g at h₁
    cases Publisher.isFree_gate hl hm h₁ with
    | unknown sighting => exact .unknown sighting
    | pending sighting =>
      cases he
      obtain ⟨rfl, rfl, hk⟩ := goOn_shut hm₁ h₂
      rw [hk]
      exact .pending sighting rfl rfl
    | unreadable sighting kind =>
      cases he
      obtain ⟨rfl, rfl, rfl⟩ := course_done h₂
      rw [hm₁]
      exact .unreadable sighting kind
    | abandoned => cases he
    | inBlock sighting head =>
      cases he
      cases hdeep : s.registry.publisher.settings.depth.le (.int _) with
      | true => exact .deep sighting head hdeep
      | false =>
        rw [hdeep] at h₂
        obtain ⟨rfl, rfl, hk⟩ := goOn_shut hm₁ h₂
        rw [hk]
        exact .shallow sighting head hdeep rfl rfl
    | headless sighting head kind =>
      cases he
      obtain ⟨rfl, rfl, rfl⟩ := course_done h₂
      rw [hm₁]
      exact .headless sighting head kind
    | headAbandoned sighting => cases he
  · have hk : m'.last = some hash := (hi.quiet.course h₁).2.trans hm
    rw [hk]
    generalize he : (Ending.cancelled : Ending (Except StandingError Bool)) = g at h₁
    cases Publisher.isFree_gate hl hm h₁ with
    | abandoned => exact .abandoned
    | headAbandoned sighting => exact .headAbandoned sighting
    | _ => cases he

/-- **In every turn of every run the gate fails closed.**  A guarded step that begins with a hash kept
submits something only past the gate; at a gate that stays shut, and when the gate cannot be read, the
step ends in an error, nothing is submitted, and the hash stays as it is. -/
theorem turns_admission [Platform] {s : Session} (hl : s.registry.publisher.ledger = .ofNode url)
    {plays : List (Step × Surroundings)} {start : Memory} {t : Turn} (ht : t ∈ s.turns plays start)
    {subject memo : Json} {op : Operation Json} (hstep : t.step = .publishGuarded subject op memo)
    (hm : t.before.last = some hash) :
    ((∃ x ∈ t.transcript, x.isSubmission = true) →
        Opened url hash s.registry.publisher.settings.depth t.transcript) ∧
      Admission url hash s.registry.publisher.settings.depth t.transcript t.ending t.after.last := by
  have hc := turns_course ht
  rw [hstep] at hc
  have ha := publishGuarded_admission hl hm hc
  exact ⟨ha.opened, ha⟩

/-- A session whose publisher works through a node. -/
def nodeSample : Session :=
  ⟨⟨{ Publisher.sample with ledger := .ofNode "http://localhost:8545" }, ⟨"http://localhost:8080"⟩⟩,
    ⟨none, some []⟩⟩

section

attribute [local instance] Platform.usual

/-- A guarded write that begins while an earlier one is kept, and breaks down at the node. -/
def heldBack : Turn :=
  nodeSample.turn Publisher.unmined (.publishGuarded (.str "did:elastos:abc") Registry.renewal.values .null)
    ⟨2, some (.str "0xab")⟩

/-- A guarded write that begins while an earlier one is kept, which the node does not know any more. -/
def letThrough : Turn :=
  nodeSample.turn Publisher.unminedNode
    (.publishGuarded (.str "did:elastos:abc") Registry.founding.values .null) ⟨2, some (.str "0xab")⟩

theorem submission_letThrough : ∃ x ∈ letThrough.transcript, x.isSubmission = true := by
  have hfree : (nodeSample.registry.publisher.isFree.run Publisher.unminedNode
      ⟨⟨2, some (.str "0xab")⟩, 0, 0, []⟩).1 = .finished (.ok true) :=
        Ending.value?_eq_some.mp (by decide +kernel)
  have hguard : ((nodeSample.registry.guard (.str "did:elastos:abc") Registry.founding.values).run
      Publisher.unminedNode (nodeSample.registry.publisher.isFree.run Publisher.unminedNode
        ⟨⟨2, some (.str "0xab")⟩, 0, 0, []⟩).2).1 = .finished (.ok ()) :=
    Ending.value?_eq_some.mp (by decide +kernel)
  have hsender : (Address.ofJson? (.str nodeSample.registry.publisher.account.toText)).isSome :=
    Address.isSome_ofJson?_usual Publisher.isValid_ones
  rw [letThrough, turn, dialogue, transcript_reported]
  exact Registry.exists_submission (.ofNode "http://localhost:8545") hsender (by decide +kernel)
    (by simp [nodeSample, Publisher.sample])
    (by simp [nodeSample, Publisher.sample]) hfree hguard

/-- At the gate the one write is held back, and the other one is let through and submitted. -/
theorem turns_admission_heldBack :
    nodeSample.registry.publisher.ledger = .ofNode "http://localhost:8545" ∧
      (heldBack ∈ nodeSample.turns
          [(.publishGuarded (.str "did:elastos:abc") Registry.renewal.values .null, Publisher.unmined)]
          ⟨2, some (.str "0xab")⟩ ∧
        Admission "http://localhost:8545" (.str "0xab") (.int 3) heldBack.transcript heldBack.ending
          heldBack.after.last) ∧
      letThrough ∈ nodeSample.turns
          [(.publishGuarded (.str "did:elastos:abc") Registry.founding.values .null, Publisher.unminedNode)]
          ⟨2, some (.str "0xab")⟩ ∧
        (∃ x ∈ letThrough.transcript, x.isSubmission = true) ∧
        Opened "http://localhost:8545" (.str "0xab") (.int 3) letThrough.transcript := by
  have hheld : heldBack ∈ nodeSample.turns
      [(.publishGuarded (.str "did:elastos:abc") Registry.renewal.values .null, Publisher.unmined)]
      ⟨2, some (.str "0xab")⟩ := List.mem_cons_self
  have hlet : letThrough ∈ nodeSample.turns
      [(.publishGuarded (.str "did:elastos:abc") Registry.founding.values .null, Publisher.unminedNode)]
      ⟨2, some (.str "0xab")⟩ := List.mem_cons_self
  exact ⟨rfl, ⟨hheld, (turns_admission rfl hheld rfl rfl).2⟩, hlet, submission_letThrough,
    (turns_admission rfl hlet rfl rfl).1 submission_letThrough⟩

end

end DidRegistry.Session
