import DidRegistry.Platform.Usual
import DidRegistry.Proofs.Operation.Published
import DidRegistry.Proofs.Publisher.Publishable
import DidRegistry.Proofs.Registry.Phases

/-!
# Two writes at once

Two guarded writes on one registry, in any interleaving.  The gate of the second one looks at the hash that
is kept, and it is opened and passed in other steps than the one that keeps the hash of the first.  So it
holds the second write back only when the hash of the first was kept before the second one began.

## Results

* `Registry.cleared_of_keptFirst` — a write that begins after the hash of the other one was kept submits only
  after the transaction of that hash was reported as unknown or as lying deep enough.
* `Registry.keptFirst_of_cleared` — otherwise nothing was reported about the transaction of the other write.
* `Registry.second_submission_cleared_iff` — **in every interleaving, the transaction of the first write has
  been reported before the second write submits exactly when its hash was kept before the second one began**.
* `Registry.two_outstanding` — two writes may be outstanding.
-/

set_option autoImplicit false

namespace DidRegistry.Registry

open Dialogue Interleaving

/-- Two writes on one registry. -/
def pair [Platform] (r : Registry) (subject : Bool → Json) (op : Bool → Operation Json) (memo : Bool → Json) :
    Bool → Dialogue (Except RegistryError Publication) :=
  fun i => r.publishGuarded (subject i) (op i) (memo i)

/-- The transaction of a write was accepted under a hash. -/
def AcceptedAs (i : Bool) (hash : Json) (log : List (Bool × Act)) : Prop :=
  ∃ (c : Call) (reply : c.Reply), (i, .answered c reply) ∈ log ∧ c.accepted? reply = some hash

/-- The hash of a write was kept before the other one began. -/
def KeptFirst (i : Bool) (log : List (Bool × Act)) : Prop :=
  ∃ hash earlier later, log = earlier ++ (i, .kept hash) :: later ∧ ∀ a, (!i, a) ∉ earlier

/-- The transaction of a write has been reported, in a part of a run, as unknown or as lying deep enough. -/
def Cleared (depth : Number) (i : Bool) (log part : List (Bool × Act)) : Prop :=
  ∃ hash, AcceptedAs i hash log ∧ Reported depth hash (part.map Prod.snd)

/-- There is one outstanding write at a time: before one write submits, the transaction that the other one has
submitted was reported. -/
def OneOutstanding (depth : Number) (log : List (Bool × Act)) : Prop :=
  ∀ i before after (c c' : Call), log = before ++ (!i, .called c) :: after → c.isSubmission = true →
    (i, .called c') ∈ before → c'.isSubmission = true → Cleared depth i log before

/-- How a write begins in a part of a run, when `last` was kept at the start of the run. -/
structure Begins (k : Bool) (last : Option Json) (part earlier later : List (Bool × Act))
    (given : Option Json) : Prop where
  /-- The first thing that it does is to recall a hash. -/
  split : part = earlier ++ (k, .recalled given) :: later
  first : ∀ a, (k, a) ∉ earlier
  /-- The other write has kept this hash before, or it is the one from the start. -/
  origin : (∃ hash, given = some hash ∧ (!k, .kept hash) ∈ earlier) ∨
    (given = last ∧ ∀ hash, (!k, .kept hash) ∉ earlier)
  /-- Only the transaction of this hash is looked up. -/
  lookups : ∀ x ∈ actsOf k later, ∀ hash, x.ask.lookup? = some hash → given = some hash

theorem Begins.actsOf_eq {k : Bool} {last given : Option Json} {part earlier later : List (Bool × Act)}
    (h : Begins k last part earlier later given) : actsOf k part = .recalled given :: actsOf k later := by
  have hearlier : actsOf k earlier = [] := by
    rw [List.eq_nil_iff_forall_not_mem]
    exact fun a ha => h.first a (mem_actsOf.mp ha)
  rw [h.split, actsOf_append, hearlier, actsOf_cons_self]
  rfl

/-- However a list is split at an element, what stands before its first place stands before it. -/
theorem mem_of_append_cons_eq {α : Type} {a b : α} {before after : List α} (hab : a ≠ b) (hb : b ∉ before)
    {before' after' : List α} (h : before ++ a :: after = before' ++ b :: after') : a ∈ before' := by
  induction before generalizing before' with
  | nil =>
    cases before' with
    | nil => exact absurd (List.cons.inj h).1 hab
    | cons c r =>
      rw [(List.cons.inj h).1]
      exact List.mem_cons_self
  | cons x r ih =>
    cases before' with
    | nil => exact absurd (List.mem_cons.mpr (.inl (List.cons.inj h).1.symm)) hb
    | cons c r' =>
      have hr : b ∉ r := fun hr => hb (List.mem_cons_of_mem _ hr)
      exact List.mem_cons_of_mem _ (ih hr (List.cons.inj h).2)

section Runs

variable {r : Registry} {subject : Bool → Json} {op : Bool → Operation Json} {memo : Bool → Json}
  {last : Option Json} {log before after : List (Bool × Act)}
  {w : World Bool (Except RegistryError Publication)}

/-- What a write has done goes through its phases. -/
theorem phases_of_run [Platform] (hl : r.publisher.ledger.IsClient)
    (h : Run (.start (r.pair subject op memo) last) log w) {i : Bool} (hi : actsOf i log ≠ []) :
    Phases r.publisher.settings.depth (actsOf i log) := by
  obtain ⟨stand, ht⟩ := run_track h i hi
  exact phases_of_track hl ht

theorem acceptedAs_of_kept [Platform] (hl : r.publisher.ledger.IsClient)
    (h : Run (.start (r.pair subject op memo) last) log w) {i : Bool} {hash : Json}
    (hm : (i, .kept hash) ∈ log) : AcceptedAs i hash log := by
  obtain ⟨acts, acts', hsplit⟩ := List.append_of_mem (mem_actsOf.mpr hm)
  have hphases := phases_of_run hl h (i := i) (by rw [hsplit]; simp)
  rw [hsplit] at hphases
  obtain ⟨c, reply, hc, haccepted⟩ := hphases.before_kept
  refine ⟨c, reply, mem_actsOf.mp ?_, haccepted⟩
  rw [hsplit]
  exact List.mem_append_left _ hc

theorem exists_begins [Platform] (hl : r.publisher.ledger.IsClient)
    (h : Run (.start (r.pair subject op memo) last) (before ++ after) w) {k : Bool} {x : Act}
    (hx : x ∈ actsOf k before) : ∃ earlier later given, Begins k last before earlier later given := by
  obtain ⟨y, acts, hacts⟩ := List.exists_cons_of_ne_nil (List.ne_nil_of_mem hx)
  obtain ⟨stand, ht⟩ := run_track h k (by rw [actsOf_append, hacts]; exact List.cons_ne_nil _ _)
  rw [actsOf_append, hacts, List.cons_append] at ht
  obtain ⟨given, rfl⟩ : ∃ given, y = .recalled given := by
    rw [pair, publishGuarded_eq_ask] at ht
    cases ht with
    | recalled given _ => exact ⟨given, rfl⟩
  -- nothing of this write comes before it recalls, so a hash that is kept there is the other one's
  obtain ⟨earlier, later, rfl, hearlier, rfl⟩ := exists_split
    (show actsOf k before = [] ++ _ :: acts from hacts)
  have hfirst : ∀ a, (k, a) ∉ earlier := by
    intro a ha
    have hm := mem_actsOf.mpr ha
    rw [hearlier] at hm
    cases hm
  have hother : ∀ hash, .kept hash ∈ earlier.map Prod.snd → (!k, .kept hash) ∈ earlier := by
    intro hash hm
    obtain ⟨⟨i, a⟩, hia, rfl⟩ := List.mem_map.mp hm
    have hi : i ≠ k := by
      rintro rfl
      exact hfirst _ hia
    rwa [← Bool.eq_not.mpr hi]
  refine ⟨earlier, later, given, rfl, hfirst, ?_, fun x hx hash hlook => ?_⟩
  · rw [List.append_assoc, List.cons_append] at h
    rw [recalled_eq h]
    rcases lastAfter_cases last (earlier.map Prod.snd) with ⟨hkept, he⟩ | ⟨hash, hm, he⟩
    · exact .inr ⟨he, fun hash hm => hkept hash (List.mem_map.mpr ⟨_, hm, rfl⟩)⟩
    · exact .inl ⟨hash, he, hother hash hm⟩
  · exact lookup_of_track hl ht (List.mem_append_left _ hx) hlook

theorem before_submission [Platform] {k : Bool} {c : Call} (hl : r.publisher.ledger.IsClient)
    (h : Run (.start (r.pair subject op memo) last) (before ++ (k, .called c) :: after) w)
    (hc : c.isSubmission = true) :
    ∃ earlier later given, Begins k last before earlier later given ∧ Quietly (actsOf k later) ∧
      ∀ hash, given = some hash → Reported r.publisher.settings.depth hash (actsOf k later) := by
  have hphases := phases_of_run hl h (i := k) (by rw [actsOf_append, actsOf_cons_self]; simp)
  rw [actsOf_append, actsOf_cons_self] at hphases
  obtain ⟨given, acts, hacts, hquiet, hreported⟩ := hphases.before_submission hc
  obtain ⟨earlier, later, given', hb⟩ := exists_begins hl h (k := k) (x := .recalled given)
    (by rw [hacts]; exact List.mem_cons_self)
  obtain ⟨hgiven, rfl⟩ := List.cons.inj (hb.actsOf_eq.symm.trans hacts)
  cases hgiven
  exact ⟨earlier, later, given, hb, hquiet, hreported⟩

/-- **A write that begins after the hash of the other one was kept is held back** until the transaction of
that hash has been reported as unknown or as lying deep enough. -/
theorem cleared_of_keptFirst [Platform] {i : Bool} {c : Call} (hl : r.publisher.ledger.IsClient)
    (h : Run (.start (r.pair subject op memo) last) (before ++ (!i, .called c) :: after) w)
    (hc : c.isSubmission = true) (hfirst : KeptFirst i before) :
    Cleared r.publisher.settings.depth i (before ++ (!i, .called c) :: after) before := by
  obtain ⟨earlier, later, given, hb, -, hreported⟩ := before_submission hl h hc
  obtain ⟨hash, before', after', hsplit, hnone⟩ := hfirst
  have hne : (i, Act.kept hash) ≠ (!i, .recalled given) := by simp
  have hm : (i, .kept hash) ∈ earlier :=
    mem_of_append_cons_eq hne (hnone _) (hsplit.symm.trans hb.split)
  rcases hb.origin with ⟨hash', rfl, hm'⟩ | ⟨-, hn⟩
  · rw [Bool.not_not] at hm'
    refine ⟨hash', acceptedAs_of_kept hl h ?_, (hreported hash' rfl).mono ?_⟩
    · rw [hb.split]
      simp [hm']
    · have hlater : List.Sublist (later.map Prod.snd) (before.map Prod.snd) := by
        rw [hb.split, List.map_append, List.map_cons]
        exact ((List.Sublist.refl _).cons _).trans (List.sublist_append_right _ _)
      exact (actsOf_sublist _ _).trans hlater
  · rw [Bool.not_not] at hn
    exact absurd hm (hn hash)

/-- **Otherwise nothing is reported about the transaction of the other write**, unless its hash is the one
that was kept at the start. -/
theorem keptFirst_of_cleared [Platform] {i : Bool} {c : Call} (hl : r.publisher.ledger.IsClient)
    (h : Run (.start (r.pair subject op memo) last) (before ++ (!i, .called c) :: after) w)
    (hc : c.isSubmission = true)
    (hcleared : Cleared r.publisher.settings.depth i (before ++ (!i, .called c) :: after) before) :
    KeptFirst i before ∨
      ∃ hash, last = some hash ∧ AcceptedAs i hash (before ++ (!i, .called c) :: after) := by
  obtain ⟨hash, haccepted, hreported⟩ := hcleared
  obtain ⟨x, hx, hlook⟩ := hreported.exists_lookup
  obtain ⟨⟨k, x⟩, hkx, rfl⟩ := List.mem_map.mp hx
  have hacts : x ∈ actsOf k before := mem_actsOf.mpr hkx
  obtain ⟨earlier, later, given, hb⟩ := exists_begins hl h hacts
  have hgiven : given = some hash := by
    rw [hb.actsOf_eq] at hacts
    rcases List.mem_cons.mp hacts with rfl | hacts
    · cases hlook
    · exact hb.lookups x hacts hash hlook
  rcases hb.origin with ⟨hash', hg, hm⟩ | ⟨hg, -⟩
  · left
    obtain rfl : hash' = hash := Option.some.inj (hg.symm.trans hgiven)
    by_cases hk : k = !i
    · -- the write that submits has looked the transaction up
      subst hk
      rw [Bool.not_not] at hm
      obtain ⟨before', after', rfl⟩ := List.append_of_mem hm
      refine ⟨hash', before', after' ++ (!i, .recalled given) :: later, ?_, fun a ha => ?_⟩
      · rw [hb.split]
        simp
      · exact hb.first a (List.mem_append_left _ ha)
    · -- the other one has, but nothing was kept for it by the write that submits
      have hk : k = i := by simpa using hk
      subst hk
      obtain ⟨earlier', later', given', hb', hquiet, -⟩ := before_submission hl h hc
      have hm' : Act.kept hash' ∈ actsOf (!k) before := by
        rw [mem_actsOf, hb.split]
        exact List.mem_append_left _ hm
      rw [hb'.actsOf_eq] at hm'
      rcases List.mem_cons.mp hm' with hm' | hm'
      · cases hm'
      · exact absurd hm' hquiet.kept_not_mem
  · exact .inr ⟨hash, hg.symm.trans hgiven, haccepted⟩

/-- **The gate holds a second write back exactly when the hash of the first was kept before the second one
began**, in every interleaving and whatever the replies are: then the transaction of the first has been
reported before the second submits, and otherwise it has not been.  The first is to be accepted under another
hash than the one that was kept at the start. -/
theorem second_submission_cleared_iff [Platform] {i : Bool} {c : Call} (hl : r.publisher.ledger.IsClient)
    (h : Run (.start (r.pair subject op memo) last) (before ++ (!i, .called c) :: after) w)
    (hc : c.isSubmission = true)
    (hnew : ∀ hash, AcceptedAs i hash (before ++ (!i, .called c) :: after) → last ≠ some hash) :
    Cleared r.publisher.settings.depth i (before ++ (!i, .called c) :: after) before ↔
      KeptFirst i before := by
  constructor
  · intro hcleared
    rcases keptFirst_of_cleared hl h hc hcleared with hfirst | ⟨hash, hlast, haccepted⟩
    · exact hfirst
    · exact absurd hlast (hnew hash haccepted)
  · exact cleared_of_keptFirst hl h hc

end Runs

/-! ## Two operations that found a DID -/

section

attribute [local instance] Platform.usual

/-- Two writes of it. -/
def foundings : Bool → Dialogue (Except RegistryError Publication) :=
  sample.pair (fun _ => .str "did:elastos:abc") (fun _ => founding.values) (fun _ => .null)

theorem goOn_founding : ∃ tx, sample.goOn (.str "did:elastos:abc") founding.values .null (.ok true) =
    .ask (.call (.send tx)) (sample.followUp .null) := by
  obtain ⟨hwire, data, hdata⟩ := Operation.wireBytes_eq founding
  obtain ⟨hpayload, hutf8⟩ := CallData.encode_isOk_iff.mp ⟨data, hdata⟩
  have hsender := Address.isSome_ofJson?_usual Publisher.isValid_ones
  obtain ⟨call, hcall⟩ := Publisher.plan_of_isSendable (p := sample.publisher)
    ⟨hpayload, hutf8, hsender, by decide +kernel⟩
  refine ⟨.obj call.toMembers, ?_⟩
  have hkind : chainedKind? founding.values = .ok none := toOption_eq_some.mp (by decide +kernel)
  have hguard : sample.guard (.str "did:elastos:abc") founding.values = .done (.ok ()) := by
    unfold guard
    rw [hkind]
    rfl
  unfold goOn
  rw [hguard]
  exact publish_of_plan hwire hcall .null

section Runs

variable {tx : Json} (htx : sample.goOn (.str "did:elastos:abc") founding.values .null (.ok true) =
  .ask (.call (.send tx)) (sample.followUp .null))

include htx

theorem track_sent (i : Bool) : (foundings i).Track [.recalled none, .called (.send tx)]
    (.ask (.call (.send tx)) (sample.followUp .null)) := by
  rw [foundings, pair, publishGuarded_eq_ask]
  refine .recalled none ?_
  show (sample.goOn (.str "did:elastos:abc") founding.values .null (.ok true)).Track _ _
  rw [htx]
  exact .waiting

theorem track_sent_unknown (i : Bool) (hash : Json) :
    (foundings i).Track [.recalled (some hash), .called (.transaction hash),
      .answered (.transaction hash) (.ok .nothing : Attempt KnownTransaction), .called (.send tx)]
      (.ask (.call (.send tx)) (sample.followUp .null)) := by
  rw [foundings, pair, publishGuarded_eq_ask]
  refine .recalled (some hash) (.answered ?_)
  show (sample.goOn (.str "did:elastos:abc") founding.values .null (.ok true)).Track _ _
  rw [htx]
  exact .waiting

theorem run_sent : ∃ w, Run (.start foundings none) [(false, .recalled none), (false, .called (.send tx))] w ∧
    w.last = none ∧ w.stage false = .stands (.ask (.call (.send tx)) (sample.followUp .null)) ∧
    w.stage true = .new (foundings true) := by
  have hstart : Run (World.start foundings none) [] (World.start foundings none) := .start
  obtain ⟨w, hrun, hlast, hfalse, hothers⟩ := hstart.follow .begin (track_sent htx false) ⟨rfl, trivial⟩
  exact ⟨w, hrun, hlast, hfalse, hothers true (by decide)⟩

end Runs

theorem track_accepted : ∃ stand, (sample.followUp .null (.ok (.found (.str "0xab")))).Track
    [.kept (.str "0xab"), .called (.receipt (.str "0xab"))] stand :=
  ⟨_, .kept .waiting⟩

/-- The first write has submitted and kept its hash before the second one begins. -/
def inTurn (tx : Json) : List (Bool × Act) :=
  [(false, .recalled none), (false, .called (.send tx)),
    (false, .answered (.send tx) (.ok (.found (.str "0xab")) : Attempt Json)), (false, .kept (.str "0xab")),
    (false, .called (.receipt (.str "0xab"))), (true, .recalled (some (.str "0xab"))),
    (true, .called (.transaction (.str "0xab"))),
    (true, .answered (.transaction (.str "0xab")) (.ok .nothing : Attempt KnownTransaction))]

theorem second_submission_cleared_inTurn : ∃ tx w,
    Run (.start foundings none) (inTurn tx ++ (!false, .called (.send tx)) :: []) w ∧
      KeptFirst false (inTurn tx) ∧
      Cleared (.int 3) false (inTurn tx ++ (!false, .called (.send tx)) :: []) (inTurn tx) := by
  obtain ⟨tx, htx⟩ := goOn_founding
  obtain ⟨stand, haccepted⟩ := track_accepted
  obtain ⟨w₁, h₁, hlast, hfalse, htrue⟩ := run_sent htx
  obtain ⟨w₂, h₂, hlast, -, hothers⟩ := h₁.follow (by rw [hfalse]; exact .reply _) haccepted trivial
  have hnew : w₂.stage true = .new (foundings true) := (hothers true (by decide)).trans htrue
  obtain ⟨w₃, h₃, -⟩ := h₂.follow (i := true) (by rw [hnew]; exact .begin)
    (track_sent_unknown htx true (.str "0xab")) ⟨hlast.symm, trivial⟩
  have hrun : Run (.start foundings none) (inTurn tx ++ (!false, .called (.send tx)) :: []) w₃ := h₃
  have hfirst : KeptFirst false (inTurn tx) :=
    ⟨.str "0xab", (inTurn tx).take 3, (inTurn tx).drop 4, rfl, by simp [inTurn]⟩
  exact ⟨tx, w₃, hrun, hfirst,
    (second_submission_cleared_iff .direct hrun rfl (fun _ _ h => nomatch h)).mpr hfirst⟩

/-- What was not looked up was not reported. -/
theorem not_cleared {depth : Number} {i : Bool} {log part : List (Bool × Act)}
    (h : ∀ x ∈ part, x.2.ask.lookup? = none) : ¬ Cleared depth i log part := by
  rintro ⟨hash, -, hreported⟩
  obtain ⟨x, hx, hlook⟩ := hreported.exists_lookup
  obtain ⟨y, hy, rfl⟩ := List.mem_map.mp hx
  rw [h y hy] at hlook
  cases hlook

/-- Both writes find no hash kept and submit; then the first one is accepted. -/
def race (tx : Json) : List (Bool × Act) :=
  [(false, .recalled none), (false, .called (.send tx)), (true, .recalled none), (true, .called (.send tx)),
    (false, .answered (.send tx) (.ok (.found (.str "0xab")) : Attempt Json)), (false, .kept (.str "0xab")),
    (false, .called (.receipt (.str "0xab")))]

theorem not_oneOutstanding_race (tx : Json) : ¬ OneOutstanding (.int 3) (race tx) := by
  intro h
  have hcleared := h false ((race tx).take 3) ((race tx).drop 4) (.send tx) (.send tx) rfl rfl
    (by simp [race]) rfl
  exact not_cleared (by simp [race, Act.ask, Ask.lookup?, Call.lookup?]) hcleared

/-- **Two writes may be outstanding**: the second one submits while the first one waits for the reply to its
submission, and nothing has been reported about the first. -/
theorem two_outstanding : ∃ tx w, Run (.start foundings none) (race tx) w ∧
    AcceptedAs false (.str "0xab") (race tx) ∧ ¬ OneOutstanding (.int 3) (race tx) := by
  obtain ⟨tx, htx⟩ := goOn_founding
  obtain ⟨stand, haccepted⟩ := track_accepted
  obtain ⟨w₁, h₁, hlast₁, hfalse, htrue⟩ := run_sent htx
  obtain ⟨w₂, h₂, -, -, hothers⟩ := h₁.follow (i := true) (by rw [htrue]; exact .begin)
    (track_sent htx true) ⟨hlast₁.symm, trivial⟩
  have hwaits := (hothers false (by decide)).trans hfalse
  obtain ⟨w₃, h₃, -⟩ := h₂.follow (i := false) (by rw [hwaits]; exact .reply _) haccepted trivial
  have hreply : AcceptedAs false (.str "0xab") (race tx) :=
    ⟨.send tx, (.ok (.found (.str "0xab")) : Attempt Json), by simp [race], rfl⟩
  exact ⟨tx, w₃, h₃, hreply, not_oneOutstanding_race tx⟩

end

end DidRegistry.Registry
