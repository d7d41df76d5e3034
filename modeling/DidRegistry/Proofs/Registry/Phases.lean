import DidRegistry.Proofs.Ledger.Reported
import DidRegistry.Proofs.Registry.Guards

/-!
# The phases of a write

A guarded write looks at the hash that is kept, asks where the transaction of that hash is, may ask for a
history, submits, keeps the hash that comes back, and waits for the receipt.  What it has done is said here
act by act, wherever it has got to, for every ledger and whatever the replies are.

## Results

* `Registry.phases_of_track` — **what a write has done goes through its phases**.
* `Registry.Phases.before_submission` — it submits only after the transaction whose hash it recalled was
  reported as unknown or as lying deep enough.
* `Registry.Phases.before_kept` — it keeps a hash only after its own submission was accepted under it.
* `Registry.lookup_of_track` — it looks no other transaction up than the one whose hash it recalled.
-/

set_option autoImplicit false

namespace DidRegistry

open Dialogue

/-! ## The gate -/

namespace Publisher

variable {p : Publisher} {last : Option Json}

/-- Whether nothing is still settling, once it is known which hash is kept. -/
def isFreeAfter (p : Publisher) : Option Json → Dialogue (Except StandingError Bool)
  | none => .done (.ok true)
  | some hash => p.ledger.isSettled (.ofNumber p.settings.depth) hash

theorem isFree_eq (p : Publisher) : p.isFree = .ask .lastHash p.isFreeAfter := by
  refine congrArg (Dialogue.ask .lastHash) (funext fun last => ?_)
  cases last <;> rfl

theorem looksUp_isFreeAfter (hl : p.ledger.IsClient) (last : Option Json) :
    (p.isFreeAfter last).LooksUp last := by
  cases last with
  | none => exact .done _
  | some hash => exact Ledger.looksUp_isSettled hl _ hash

theorem quiet_isFreeAfter (hl : p.ledger.IsClient) (last : Option Json) : (p.isFreeAfter last).Quiet := by
  cases last with
  | none => exact .done _
  | some hash => exact Inquires.quiet (hl.inquires.isSettled _ hash)

end Publisher

/-! ## What is looked up -/

namespace Registry

variable {r : Registry}

/-- Publishing once it is known what came of sending. -/
def followUp (r : Registry) (memo : Json) (a : Attempt Json) : Dialogue (Except RegistryError Publication) :=
  match Publisher.verdict memo a with
  | .error e => .done (.error (.publish e))
  | .ok hash => .ask (.remember hash) fun _ =>
    (r.publisher.awaitAll hash).bind fun x => .done (x.mapError .publish)

theorem publish_of_plan [Platform] {op : Operation Json} {payload : List UInt8} {call : RegistryCall}
    (hwire : op.wireBytes = .ok payload) (hplan : r.publisher.plan payload = .ok call) (memo : Json) :
    r.publish op memo = (r.publisher.ledger.send (.obj call.toMembers)).bind (r.followUp memo) := by
  unfold publish
  rw [hwire]
  dsimp only
  rw [Publisher.publish_eq hplan, bind_eq, bind_assoc]
  refine congrArg (Dialogue.bind _) (funext fun a => ?_)
  unfold followUp
  cases Publisher.verdict memo a <;> rfl

/-- Publishing either fails at once or sends. -/
theorem publish_cases [Platform] (r : Registry) (op : Operation Json) (memo : Json) :
    (∃ e, r.publish op memo = .done (.error e)) ∨
      ∃ tx, r.publish op memo = (r.publisher.ledger.send tx).bind (r.followUp memo) := by
  cases hwire : op.wireBytes with
  | error e => exact .inl ⟨.wire e, by unfold publish; rw [hwire]; rfl⟩
  | ok payload =>
    cases hplan : r.publisher.plan payload with
    | error e =>
      refine .inl ⟨.publish e, ?_⟩
      unfold publish
      rw [hwire]
      dsimp only
      rw [Publisher.publish_of_error hplan]
      rfl
    | ok call => exact .inr ⟨_, publish_of_plan hwire hplan memo⟩

theorem looksUp_publish [Platform] (hl : r.publisher.ledger.IsClient) (op : Operation Json) (memo : Json)
    (last : Option Json) : (r.publish op memo).LooksUp last := by
  refine asks_publish fun payload => Publisher.asks_publication (fun call _ => Ledger.looksUp_send hl _) ?_ ?_
  · exact fun _ _ h => by cases h
  · exact fun hash => Publisher.asks_awaitAll (Ledger.looksUp_receipt hl hash) fun _ _ h => by cases h

theorem looksUp_goOn [Platform] (hl : r.publisher.ledger.IsClient) (subject : Json) (op : Operation Json)
    (memo : Json)
    (last : Option Json) (a : Except StandingError Bool) : (r.goOn subject op memo a).LooksUp last := by
  have hquestions : Resolver.Allows fun a => ∀ hash, a.lookup? = some hash → last = some hash := by
    intro r variety parameters hash h
    cases variety <;> simp [Ask.lookup?, Resolver.question, Call.lookup?, Resolver.method] at h
  exact asks_goOn (fun _ h => by cases h) (asks_guard hquestions) (looksUp_publish hl op memo last) a

theorem publishGuarded_eq_ask [Platform] (subject : Json) (op : Operation Json) (memo : Json) :
    r.publishGuarded subject op memo =
      .ask .lastHash fun last => (r.publisher.isFreeAfter last).bind (r.goOn subject op memo) := by
  rw [publishGuarded_eq, Publisher.isFree_eq]
  rfl

/-- **A write looks no other transaction up than the one whose hash it recalled.** -/
theorem lookup_of_track [Platform] (hl : r.publisher.ledger.IsClient) {subject : Json} {op : Operation Json}
    {memo : Json}
    {last : Option Json} {acts : List Act} {stand : Dialogue (Except RegistryError Publication)}
    (h : (r.publishGuarded subject op memo).Track (.recalled last :: acts) stand) {x : Act} (hx : x ∈ acts)
    {hash : Json} (hh : x.ask.lookup? = some hash) : last = some hash := by
  rw [publishGuarded_eq_ask] at h
  cases h with
  | recalled _ h =>
    have hd : ((r.publisher.isFreeAfter last).bind (r.goOn subject op memo)).LooksUp last :=
      (Publisher.looksUp_isFreeAfter hl last).bind fun a => looksUp_goOn hl subject op memo last a
    exact Asks.track hd h x hx hash hh

/-! ## Phases -/

/-- Acts in which nothing is submitted and no hash is kept. -/
def Quietly (acts : List Act) : Prop := ∀ x ∈ acts, x.ask.isQuiet = true

theorem Quietly.append {acts acts' : List Act} (h : Quietly acts) (h' : Quietly acts') :
    Quietly (acts ++ acts') := by
  intro x hx
  rcases List.mem_append.mp hx with hx | hx
  · exact h x hx
  · exact h' x hx

/-- What may follow when a submission has gone out. -/
inductive Follows (c : Call) : List Act → Prop where
  | waiting : Follows c []
  | rejected {reply : c.Reply} (rejected : c.accepted? reply = none) : Follows c [.answered c reply]
  /-- The hash is kept, and what follows is waiting for the receipt. -/
  | accepted {reply : c.Reply} {hash : Json} {rest : List Act} (accepted : c.accepted? reply = some hash)
      (quiet : Quietly rest) : Follows c (.answered c reply :: .kept hash :: rest)

/-- What a write may have done, when `depth` blocks have to be on top of a transaction that is settled. -/
inductive Phases (depth : Number) : List Act → Prop where
  /-- It has submitted nothing. -/
  | looking {last : Option Json} {before : List Act} (quiet : Quietly before) :
      Phases depth (.recalled last :: before)
  /-- It has submitted, after the transaction whose hash it recalled was reported. -/
  | sending {last : Option Json} {before after : List Act} {c : Call} (quiet : Quietly before)
      (free : ∀ hash, last = some hash → Reported depth hash before) (submits : c.isSubmission = true)
      (follows : Follows c after) : Phases depth (.recalled last :: (before ++ .called c :: after))

section Tracks

variable {depth : Number} {last : Option Json} {before acts : List Act}
  {stand : Dialogue (Except RegistryError Publication)}

/-- Nothing follows a submission that was not accepted; otherwise its hash is kept first. -/
theorem track_followUp (hl : r.publisher.ledger.IsClient) {memo : Json} {a : Attempt Json}
    (h : (r.followUp memo a).Track acts stand) :
    (Attempt.accepted? a = none ∧ acts = []) ∨
      ∃ hash rest, Attempt.accepted? a = some hash ∧ acts = .kept hash :: rest ∧ Quietly rest := by
  unfold followUp at h
  cases ha : Attempt.accepted? a with
  | none =>
    obtain ⟨e, he, -⟩ := Publisher.verdict_of_not_accepted memo ha
    rw [he] at h
    exact .inl ⟨rfl, (track_done h).1⟩
  | some hash =>
    rw [Publisher.verdict_of_accepted memo ha] at h
    cases h with
    | kept h =>
      have hquiet : ((r.publisher.awaitAll hash).bind fun x =>
          (.done (x.mapError .publish) : Dialogue (Except RegistryError Publication))).Quiet :=
        (Publisher.quiet_awaitAll hl hash).bind fun _ => .done _
      exact .inr ⟨hash, _, rfl, rfl, Asks.track hquiet h⟩

/-- The phases of a write that publishes, nothing being in its way. -/
theorem phases_of_publish [Platform] (hl : r.publisher.ledger.IsClient) {op : Operation Json} {memo : Json}
    (hquiet : Quietly before) (hfree : ∀ hash, last = some hash → Reported depth hash before)
    (h : (r.publish op memo).Track acts stand) : Phases depth (.recalled last :: (before ++ acts)) := by
  rcases publish_cases r op memo with ⟨e, he⟩ | ⟨tx, he⟩
  · rw [he] at h
    obtain ⟨rfl, -⟩ := track_done h
    rw [List.append_nil]
    exact .looking hquiet
  · rw [he] at h
    rcases Ledger.track_send_bind hl h with ⟨a, ha, hf⟩ | ⟨c, hc, rfl | ⟨reply, rest, a, rfl, ha, hf⟩⟩
    · -- nothing goes out for what a node could not be sent
      rcases track_followUp hl hf with ⟨-, rfl⟩ | ⟨hash, rest, hs, -, -⟩
      · rw [List.append_nil]
        exact .looking hquiet
      · rw [ha] at hs
        cases hs
    · exact .sending hquiet hfree hc .waiting
    · rcases track_followUp hl hf with ⟨hn, rfl⟩ | ⟨hash, rest, hs, rfl, hrest⟩
      · exact .sending hquiet hfree hc (.rejected (ha.symm.trans hn))
      · exact .sending hquiet hfree hc (.accepted (ha.symm.trans hs) hrest)

/-- The phases of a write once its gate has been opened. -/
theorem phases_of_goOn [Platform] (hl : r.publisher.ledger.IsClient) {subject : Json} {op : Operation Json}
    {memo : Json}
    (hquiet : Quietly before) (hfree : ∀ hash, last = some hash → Reported depth hash before)
    (h : (r.goOn subject op memo (.ok true)).Track acts stand) :
    Phases depth (.recalled last :: (before ++ acts)) := by
  have hguard : (r.guard subject op).Quiet := (inquires_guard subject op).quiet
  rcases track_bind h with ⟨g, guarded, acts, rfl, h₁, h₂⟩ | ⟨⟨stand', h₁⟩, -⟩
  · have hquiet := hquiet.append (Asks.track hguard h₁)
    rw [← List.append_assoc]
    cases g with
    | error e =>
      obtain ⟨rfl, -⟩ := track_done h₂
      rw [List.append_nil]
      exact .looking hquiet
    | ok u =>
      refine phases_of_publish hl hquiet (fun hash hash_eq => ?_) h₂
      exact (hfree hash hash_eq).mono (List.sublist_append_left _ _)
  · exact .looking (hquiet.append (Asks.track hguard h₁))

/-- **The phases of a write.** -/
theorem phases_of_track [Platform] (hl : r.publisher.ledger.IsClient) {subject : Json} {op : Operation Json}
    {memo : Json}
    (h : (r.publishGuarded subject op memo).Track acts stand) : Phases r.publisher.settings.depth acts := by
  rw [publishGuarded_eq_ask] at h
  cases h with
  | recalled last h =>
    have hgate := Publisher.quiet_isFreeAfter hl last
    rcases track_bind h with ⟨a, looked, acts, rfl, h₁, h₂⟩ | ⟨⟨stand', h₁⟩, -⟩
    · have hquiet : Quietly looked := Asks.track hgate h₁
      rcases a with e | _ | _
      · obtain ⟨rfl, -⟩ := track_done h₂
        rw [List.append_nil]
        exact .looking hquiet
      · -- it is refused, and the hash is recalled once more for the report
        have hbusy : (r.goOn subject op memo (.ok false)).Quiet := .ask rfl fun _ => .done _
        exact .looking (hquiet.append (Asks.track hbusy h₂))
      · refine phases_of_goOn hl hquiet (fun hash hash_eq => ?_) h₂
        subst hash_eq
        exact Ledger.reported_of_isSettled hl h₁
    · exact .looking (Asks.track hgate h₁)

end Tracks

/-! ## What the phases tell -/

variable {depth : Number} {acts acts' : List Act}

theorem Quietly.called_not_mem {c : Call} (hc : c.isSubmission = true) (h : Quietly acts) :
    Act.called c ∉ acts := by
  intro hm
  have hq := h _ hm
  simp [Act.ask, Ask.isQuiet, hc] at hq

theorem Quietly.kept_not_mem {hash : Json} (h : Quietly acts) : Act.kept hash ∉ acts := by
  intro hm
  cases h _ hm

/-- **Before a write submits** it recalls a hash and nothing else is kept; the transaction of the hash is
reported. -/
theorem Phases.before_submission {c : Call} (h : Phases depth (acts ++ .called c :: acts'))
    (hc : c.isSubmission = true) :
    ∃ last before, acts = .recalled last :: before ∧ Quietly before ∧
      ∀ hash, last = some hash → Reported depth hash before := by
  generalize hall : acts ++ .called c :: acts' = all at h
  cases h with
  | @looking last before quiet =>
    have hm : Act.called c ∈ Act.recalled last :: before := by
      rw [← hall]
      simp
    rcases List.mem_cons.mp hm with hm | hm
    · cases hm
    · exact absurd hm (quiet.called_not_mem hc)
  | @sending last before after c' quiet free submits follows =>
    have hbefore : Act.called c ∉ Act.recalled last :: before := by
      intro hm
      rcases List.mem_cons.mp hm with hm | hm
      · cases hm
      · exact quiet.called_not_mem hc hm
    have hafter : Act.called c ∉ after := by
      intro hm
      cases follows with
      | waiting => cases hm
      | rejected => simp at hm
      | accepted _ hrest =>
        simp only [List.mem_cons, reduceCtorEq, false_or] at hm
        exact hrest.called_not_mem hc hm
    rw [← List.cons_append] at hall
    have hsame := (List.append_cons_inj_of_notMem hbefore hafter).mp hall.symm
    exact ⟨last, before, hsame.1.symm, quiet, free⟩

/-- **Before a hash is kept** the submission has been accepted under it. -/
theorem Phases.before_kept {hash : Json} (h : Phases depth (acts ++ .kept hash :: acts')) :
    ∃ (c : Call) (reply : c.Reply), .answered c reply ∈ acts ∧ c.accepted? reply = some hash := by
  generalize hall : acts ++ .kept hash :: acts' = all at h
  have hm : Act.kept hash ∈ all := by
    rw [← hall]
    simp
  cases h with
  | looking quiet =>
    rcases List.mem_cons.mp hm with hm | hm
    · cases hm
    · exact absurd hm quiet.kept_not_mem
  | @sending last before after c quiet free submits follows =>
    have hbefore : Act.kept hash ∉ before := quiet.kept_not_mem
    cases follows with
    | waiting => simp [hbefore] at hm
    | rejected => simp [hbefore] at hm
    | @accepted reply given rest haccepted hrest =>
      have hfirst : Act.kept hash ∉ Act.recalled last :: (before ++ [.called c, .answered c reply]) := by
        simp [hbefore]
      have hsplit : Act.recalled last :: (before ++ .called c :: .answered c reply :: .kept given :: rest) =
          (Act.recalled last :: (before ++ [.called c, .answered c reply])) ++ .kept given :: rest := by
        simp
      rw [hsplit] at hall
      obtain ⟨rfl, hsame, -⟩ := (List.append_cons_inj_of_notMem hfirst hrest.kept_not_mem).mp hall.symm
      cases hsame
      exact ⟨c, reply, by simp, haccepted⟩

end Registry

end DidRegistry
