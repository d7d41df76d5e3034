import DidRegistry.Proofs.Json.Scalars

/-!
# Reading back canonical JSON

The canonical text of a value holds the members of its objects in the order of their keys.  Reading the text
gives the value with its members in that order, for the values whose text keeps all that is
in them (`Json.Readable`).  The text of the value as it stands (`Json.write`) comes between the two.

The reader counts down how deep it may still go into a value (`room`) and how many steps it may still take
(`fuel`); the first bound is part of `Readable`, the second is twice the length of the text.

## Results

* `Json.render_eq` — the canonical text is the text of the value in order.
* `Json.readValue_write` — a value is read back from its text, whatever comes after it.
* `Json.read_render` — **the canonical text of a value is read as the value in order**.
* `Json.readBody_canonical` — **the canonical bytes of an object are read as the object in order**.
* `Json.get?_sorted` — **a member of an object in order is that of the object, in order**.
-/

set_option autoImplicit false

namespace DidRegistry

theorem Text.ofChars_injective : Function.Injective ofChars := fun a b h => by
  rw [← chars_ofChars a, ← chars_ofChars b, h]

theorem Text.isWellFormed_ofChars (cs : List Char) : (ofChars cs).isWellFormed = true := by
  simp [ofChars, isWellFormed, Point.char?]

theorem Text.exists_ofChars {t : Text} (h : t.isWellFormed = true) : ∃ cs, t = ofChars cs := by
  obtain ⟨points⟩ := t
  induction points with
  | nil => exact ⟨[], rfl⟩
  | cons p points ih =>
    simp only [isWellFormed, List.all_cons, Bool.and_eq_true] at h
    obtain ⟨cs, hcs⟩ := ih h.2
    cases p with
    | char c =>
      obtain rfl : points = cs.map .char := congrArg Text.points hcs
      exact ⟨c :: cs, rfl⟩
    | lone l => cases h.1

namespace Json

/-! ## The order of members -/

mutual

/-- The text of a value, the members of its objects in the order in which they stand. -/
def write : Json → List Char
  | .null => "null".toList
  | .bool b => if b then "true".toList else "false".toList
  | .int n => Text.signedDecimal n
  | .real x => x.text
  | .str s => renderString s
  | .arr items => '[' :: (joinCommas (writeItems items) ++ [']'])
  | .obj members => '\x7b' :: (joinCommas (writeMembers members) ++ ['\x7d'])

/-- The texts of items. -/
def writeItems : List Json → List (List Char)
  | [] => []
  | x :: r => write x :: writeItems r

/-- The texts of members. -/
def writeMembers : List (Text × Json) → List (List Char)
  | [] => []
  | (k, x) :: r => (renderString k ++ ':' :: write x) :: writeMembers r

end

theorem writeMembers_eq (ms : Members) :
    writeMembers ms = ms.map fun m => renderString m.1 ++ ':' :: write m.2 := by
  induction ms with
  | nil => rfl
  | cons m ms ih => rw [writeMembers, ih]; rfl

mutual

/-- **The canonical text of a value is the text of the value in order.** -/
theorem render_eq : ∀ v : Json, render v = write (sorted v)
  | .null => rfl
  | .bool _ => rfl
  | .int _ => rfl
  | .real _ => rfl
  | .str _ => rfl
  | .arr items => by rw [render, sorted, write, renderItems_eq items]
  | .obj members => by
    have hsort : sortMembers ((sortedMembers members).map fun m => (m.1, write m.2)) =
        (inOrder (sortedMembers members)).map fun m => (m.1, write m.2) :=
      (List.map_mergeSort (f := fun m : Text × Json => (m.1, write m.2)) fun _ _ _ _ => rfl).symm
    rw [render, sorted, write, renderMembers_eq members, hsort, writeMembers_eq, List.map_map]
    rfl

theorem renderItems_eq : ∀ items : List Json, renderItems items = writeItems (sortedItems items)
  | [] => rfl
  | x :: r => by rw [renderItems, sortedItems, writeItems, render_eq x, renderItems_eq r]

theorem renderMembers_eq :
    ∀ ms : List (Text × Json), renderMembers ms = (sortedMembers ms).map fun m => (m.1, write m.2)
  | [] => rfl
  | (k, x) :: r => by
    rw [renderMembers, sortedMembers, List.map_cons, render_eq x, renderMembers_eq r]

end

/-! ## Values that are read back -/

mutual

/-- A value whose text gives it back where there is room for so many lists and objects in one another: it
has no binary number, no whole number that is too long, only characters in its strings and keys, and no
key twice in an object. -/
def Readable : (room : Nat) → Json → Prop
  | _, .real _ => False
  | _, .int n => IsShort n
  | _, .str s => s.isWellFormed = true
  | room, .arr items => 0 < room ∧ ReadableItems (room - 1) items
  | room, .obj members => 0 < room ∧ (members.map (·.1)).Nodup ∧ ReadableMembers (room - 1) members
  | _, _ => True

/-- Items whose texts give them back. -/
def ReadableItems : (room : Nat) → List Json → Prop
  | _, [] => True
  | room, x :: r => Readable room x ∧ ReadableItems room r

/-- Members whose texts give them back. -/
def ReadableMembers : (room : Nat) → List (Text × Json) → Prop
  | _, [] => True
  | room, (k, x) :: r => k.isWellFormed = true ∧ Readable room x ∧ ReadableMembers room r

end

theorem readableMembers_iff {room : Nat} {ms : Members} :
    ReadableMembers room ms ↔ ∀ m ∈ ms, m.1.isWellFormed = true ∧ Readable room m.2 := by
  induction ms with
  | nil => simp [ReadableMembers]
  | cons m ms ih => simp [ReadableMembers, ih, and_assoc]

theorem inOrder_perm (ms : Members) : (inOrder ms).Perm ms := List.mergeSort_perm ms _

theorem sortedMembers_keys (ms : Members) : (sortedMembers ms).map (·.1) = ms.map (·.1) := by
  induction ms with
  | nil => rfl
  | cons m ms ih => simp [sortedMembers, ih]

mutual

theorem Readable.sorted : ∀ {v : Json} {room : Nat}, Readable room v → Readable room v.sorted
  | .null, _, h | .bool _, _, h | .int _, _, h | .real _, _, h | .str _, _, h => h
  | .arr _, _, h => ⟨h.1, h.2.sorted⟩
  | .obj members, room, h => by
    have hp := inOrder_perm (sortedMembers members)
    refine ⟨h.1, ?_, ?_⟩
    · rw [(hp.map _).nodup_iff, sortedMembers_keys]
      exact h.2.1
    · have hm := readableMembers_iff.mp h.2.2.sorted
      exact readableMembers_iff.mpr fun m hx => hm m (hp.mem_iff.mp hx)

theorem ReadableItems.sorted :
    ∀ {items : List Json} {room : Nat}, ReadableItems room items → ReadableItems room (sortedItems items)
  | [], _, _ => trivial
  | _ :: _, _, h => ⟨h.1.sorted, h.2.sorted⟩

theorem ReadableMembers.sorted : ∀ {ms : List (Text × Json)} {room : Nat},
    ReadableMembers room ms → ReadableMembers room (sortedMembers ms)
  | [], _, _ => trivial
  | (_, _) :: _, _, h => ⟨h.1, h.2.1.sorted, h.2.2.sorted⟩

end

/-! ## Reading -/

/-- Whether a value may start with a character: it is no white space and closes nothing. -/
def opens (c : Char) : Bool := !isSpace (.char c) && c != ']' && c != '\x7d'

theorem skipSpace_of_opens {c : Char} (h : opens c = true) (r : List Point) :
    skipSpace (.char c :: r) = .char c :: r := by
  have hs : isSpace (.char c) = false := by
    simp only [opens, Bool.and_eq_true, Bool.not_eq_true'] at h
    exact h.1.1
  simp [skipSpace, hs]

theorem opens_decimalDigit : ∀ d < 10, opens (Text.decimalDigit d) = true := by decide

theorem write_opens {room : Nat} {v : Json} (h : Readable room v) :
    ∃ c cs, write v = c :: cs ∧ opens c = true := by
  cases v with
  | null => exact ⟨'n', _, rfl, by decide⟩
  | bool b => cases b <;> exact ⟨_, _, rfl, by decide⟩
  | int n =>
    obtain ⟨d, ds, hd, he⟩ := decimal_eq_cons n.natAbs
    by_cases hneg : n < 0
    · exact ⟨'-', Text.decimal n.natAbs, if_pos hneg, by decide⟩
    · exact ⟨_, ds, (if_neg hneg).trans he, opens_decimalDigit d hd⟩
  | real x => cases h
  | str s => exact ⟨'"', _, rfl, by decide⟩
  | arr items => exact ⟨'[', _, rfl, by decide⟩
  | obj ms => exact ⟨_, _, rfl, by decide⟩

theorem joinCommas_opens {x : List Char} {c : Char} {cs : List Char} (h : x = c :: cs)
    (xs : List (List Char)) : ∃ t, joinCommas (x :: xs) = c :: t := by
  cases xs with
  | nil => exact ⟨cs, h⟩
  | cons y ys => exact ⟨cs ++ ',' :: joinCommas (y :: ys), by rw [joinCommas, h]; rfl⟩

theorem readValue_scalar {fuel room : Nat} {p : Point} {r : List Point} (hl : p ≠ .char '[')
    (ho : p ≠ .char '\x7b') : readValue (fuel + 1) room (p :: r) = readScalar (p :: r) := by
  rw [readValue]
  · exact fun _ h => hl (List.cons.inj h).1
  · exact fun _ h => ho (List.cons.inj h).1

theorem put_eq_append {key : Text} {value : Json} {ms : Members} (h : key ∉ ms.map (·.1)) :
    Members.put key value ms = ms ++ [(key, value)] := by
  induction ms with
  | nil => rfl
  | cons m ms ih =>
    rw [List.map_cons, List.mem_cons, not_or] at h
    rw [Members.put, if_neg (Ne.symm h.1), ih h.2]
    rfl

theorem stops_mark {c : Char} (h : c = ',' ∨ c = ']' ∨ c = '\x7d') (r : List Point) :
    Stops (.char c :: r) := by
  intro p rest he
  obtain ⟨rfl, -⟩ := List.cons.inj he
  rcases h with rfl | rfl | rfl <;> decide

theorem stops_nil : Stops [] := by
  intro p rest he
  cases he

/-! ### One step -/

section

variable {fuel room : Nat} {c : Char} {r s : List Point} {v : Json}

theorem readValue_list (hroom : 0 < room) (hc : opens c = true) :
    readValue (fuel + 1) room (.char '[' :: .char c :: s) =
      (readItems fuel (room - 1) (.char c :: s)).map fun p => (.arr p.1, p.2) := by
  have hclose : c ≠ ']' := by
    rintro rfl
    cases hc
  rw [readValue, ifRoom, if_neg (by omega), skipSpace_of_opens hc]
  split
  · rename_i he
    exact absurd (Point.char.inj (List.cons.inj he).1) hclose
  · rfl

theorem readItems_last (h : readValue fuel room s = .ok (v, .char ']' :: r)) :
    readItems (fuel + 1) room s = .ok ([v], r) := by
  rw [readItems, h]
  rfl

theorem readItems_next (hc : opens c = true) {s' : List Point}
    (h : readValue fuel room s = .ok (v, .char ',' :: .char c :: s')) :
    readItems (fuel + 1) room s = (readItems fuel room (.char c :: s')).map fun p => (v :: p.1, p.2) := by
  rw [readItems, h]
  have hcomma : skipSpace (.char ',' :: .char c :: s') = .char ',' :: .char c :: s' := rfl
  simp only [hcomma, skipSpace_of_opens hc]

theorem readValue_object (hroom : 0 < room) : readValue (fuel + 1) room (.char '\x7b' :: .char '"' :: s) =
    (readMembers fuel (room - 1) [] (.char '"' :: s)).map fun p => (.obj p.1, p.2) := by
  have hskip : skipSpace (.char '"' :: s) = .char '"' :: s := rfl
  rw [readValue, ifRoom, if_neg (by omega), hskip]
  split
  · rename_i he
    cases (List.cons.inj he).1
  · rfl

/-- The members that are read once a key and what comes after its colon are: the value and then the
rest. -/
def afterKey (fuel room : Nat) (sofar : Members) (key : Text) : Read Json → Read Members
  | .error e => .error e
  | .ok (v, r) =>
    match skipSpace r with
    | .char '\x7d' :: r' => .ok (Members.put key v sofar, r')
    | .char ',' :: r' => readMembers fuel room (Members.put key v sofar) (skipSpace r')
    | _ => .error .malformed

theorem readMembers_key (hc : opens c = true) (cs : List Char) (sofar : Members) :
    readMembers (fuel + 1) room sofar
        ((renderString (Text.ofChars cs)).map .char ++ .char ':' :: .char c :: s) =
      afterKey fuel room sofar (Text.ofChars cs) (readValue fuel room (.char c :: s)) := by
  have hcolon : skipSpace (.char ':' :: .char c :: s) = .char ':' :: .char c :: s := rfl
  rw [renderString_ofChars]
  simp only [List.map_cons, List.map_append, List.map_nil, List.cons_append, List.append_assoc,
    List.nil_append]
  rw [readMembers]
  simp only [readText_renderChars, hcolon, skipSpace_of_opens hc]
  rfl

theorem readMembers_last {cs : List Char} {sofar : Members} (hc : opens c = true)
    (hkey : Text.ofChars cs ∉ sofar.map (·.1))
    (h : readValue fuel room (.char c :: s) = .ok (v, .char '\x7d' :: r)) :
    readMembers (fuel + 1) room sofar
        ((renderString (Text.ofChars cs)).map .char ++ .char ':' :: .char c :: s) =
      .ok (sofar ++ [(Text.ofChars cs, v)], r) := by
  rw [readMembers_key hc, h, ← put_eq_append hkey]
  rfl

theorem readMembers_next {cs : List Char} {sofar ms : Members} {s' : List Point} (hc : opens c = true)
    (hkey : Text.ofChars cs ∉ sofar.map (·.1))
    (h : readValue fuel room (.char c :: s) = .ok (v, .char ',' :: .char '"' :: s'))
    (hrest : readMembers fuel room (sofar ++ [(Text.ofChars cs, v)]) (.char '"' :: s') = .ok (ms, r)) :
    readMembers (fuel + 1) room sofar
        ((renderString (Text.ofChars cs)).map .char ++ .char ':' :: .char c :: s) = .ok (ms, r) := by
  rw [← put_eq_append hkey] at hrest
  rw [readMembers_key hc, h]
  exact hrest

end

theorem not_mem_keys {k : Text} {x : Json} {sofar ms : Members}
    (h : ((sofar ++ (k, x) :: ms).map (·.1)).Nodup) : k ∉ sofar.map (·.1) := by
  rw [List.map_append, List.map_cons, List.nodup_append] at h
  exact fun hk => h.2.2 k hk k List.mem_cons_self rfl

theorem writeMembers_cons_opens (k : Text) (x : Json) (ms : Members) :
    ∃ t, joinCommas (writeMembers ((k, x) :: ms)) = '"' :: t :=
  joinCommas_opens (x := renderString k ++ ':' :: write x) rfl _

mutual

/-- **The text of a value gives the value back**, whatever comes after it that does not go on with it. -/
theorem readValue_write : ∀ (v : Json) {fuel room : Nat} {r : List Point}, Readable room v →
    2 * (write v).length ≤ fuel → Stops r →
    readValue fuel room ((write v).map .char ++ r) = .ok (v, r)
  | .null, fuel + 1, room, r, _, _, _ =>
    (readValue_scalar (by decide) (by decide)).trans (readScalar_null r)
  | .bool b, fuel + 1, room, r, _, _, _ => by
    rw [← readScalar_bool b r]
    cases b <;> exact readValue_scalar (by decide) (by decide)
  | .int n, fuel + 1, room, r, h, _, hr => by
    obtain ⟨c, cs, he, hl, ho⟩ : ∃ c cs, Text.signedDecimal n = c :: cs ∧ c ≠ '[' ∧ c ≠ '\x7b' := by
      obtain ⟨d, ds, hd, he⟩ := decimal_eq_cons n.natAbs
      by_cases hneg : n < 0
      · exact ⟨'-', Text.decimal n.natAbs, if_pos hneg, by decide⟩
      · exact ⟨_, ds, (if_neg hneg).trans he, decimalDigit_ne hd (by decide), decimalDigit_ne hd (by decide)⟩
    rw [← readScalar_int h hr, write, he]
    exact readValue_scalar (fun h => hl (Point.char.inj h)) fun h => ho (Point.char.inj h)
  | .real _, _, _, _, h, _, _ => by cases h
  | .str s, fuel + 1, room, r, h, _, _ => by
    obtain ⟨cs, rfl⟩ := Text.exists_ofChars h
    exact (readValue_scalar (by decide) (by decide)).trans (readScalar_string cs r)
  | .arr [], fuel + 1, room, r, h, _, _ => by
    rw [show (write (.arr [])).map .char ++ r = .char '[' :: .char ']' :: r from rfl, readValue, ifRoom,
      if_neg (Nat.ne_of_gt h.1)]
    rfl
  | .arr (x :: xs), fuel + 1, room, r, h, hf, _ => by
    simp only [write, List.length_cons, List.length_append] at hf
    have hitems := readItems_write x xs (r := r) h.2 (show _ ≤ fuel by omega)
    obtain ⟨c, cs, hc, hopen⟩ := write_opens h.2.1
    obtain ⟨t, ht⟩ := joinCommas_opens hc (writeItems xs)
    rw [writeItems, ht] at hitems
    simp only [write, writeItems, ht, List.map_cons, List.map_append, List.cons_append, List.append_assoc]
    exact (readValue_list h.1 hopen).trans (congrArg (Except.map _) hitems)
  | .obj [], fuel + 1, room, r, h, _, _ => by
    rw [show (write (.obj [])).map .char ++ r = .char '\x7b' :: .char '\x7d' :: r from rfl, readValue, ifRoom,
      if_neg (Nat.ne_of_gt h.1)]
    rfl
  | .obj ((k, x) :: ms), fuel + 1, room, r, h, hf, _ => by
    simp only [write, List.length_cons, List.length_append] at hf
    have hmembers := readMembers_write k x ms [] (r := r) h.2.2 h.2.1 (show _ ≤ fuel by omega)
    obtain ⟨t, ht⟩ := writeMembers_cons_opens k x ms
    rw [ht] at hmembers
    simp only [write, ht, List.map_cons, List.map_append, List.cons_append, List.append_assoc]
    exact (readValue_object h.1).trans (congrArg (Except.map _) hmembers)
  | v, 0, _, _, h, hf, _ => by
    obtain ⟨c, cs, hc, -⟩ := write_opens h
    rw [hc] at hf
    simp at hf

theorem readItems_write : ∀ (x : Json) (xs : List Json) {fuel room : Nat} {r : List Point},
    ReadableItems room (x :: xs) → 2 * (joinCommas (writeItems (x :: xs))).length + 1 ≤ fuel →
    readItems fuel room ((joinCommas (writeItems (x :: xs))).map .char ++ .char ']' :: r) = .ok (x :: xs, r)
  | x, [], fuel + 1, room, r, h, hf =>
    readItems_last
      (readValue_write x h.1 (Nat.le_of_succ_le_succ hf) (stops_mark (.inr (.inl rfl)) r))
  | x, y :: ys, fuel + 1, room, r, h, hf => by
    have hj : joinCommas (writeItems (x :: y :: ys)) = write x ++ ',' :: joinCommas (writeItems (y :: ys)) :=
      rfl
    rw [hj, List.length_append, List.length_cons] at hf
    have hrest := readItems_write y ys (r := r) h.2 (show _ ≤ fuel by omega)
    obtain ⟨c, cs, hc, hopen⟩ := write_opens h.2.1
    obtain ⟨t, ht⟩ := joinCommas_opens hc (writeItems ys)
    rw [writeItems, ht] at hrest
    rw [hj, writeItems, ht, List.map_append, List.append_assoc]
    exact (readItems_next hopen (readValue_write x h.1 (by omega) (stops_mark (.inl rfl) _))).trans
      (congrArg (Except.map _) hrest)

theorem readMembers_write : ∀ (k : Text) (x : Json) (ms sofar : Members) {fuel room : Nat}
    {r : List Point}, ReadableMembers room ((k, x) :: ms) →
    ((sofar ++ (k, x) :: ms).map (·.1)).Nodup →
    2 * (joinCommas (writeMembers ((k, x) :: ms))).length + 1 ≤ fuel →
    readMembers fuel room sofar
        ((joinCommas (writeMembers ((k, x) :: ms))).map .char ++ .char '\x7d' :: r) =
      .ok (sofar ++ (k, x) :: ms, r)
  | k, x, [], sofar, fuel + 1, room, r, h, hd, hf => by
    obtain ⟨cs, rfl⟩ := Text.exists_ofChars h.1
    have hj : joinCommas (writeMembers [(Text.ofChars cs, x)]) =
        renderString (Text.ofChars cs) ++ ':' :: write x := rfl
    rw [hj, List.length_append, List.length_cons] at hf
    have hx := readValue_write x h.2.1 (show _ ≤ fuel by omega) (stops_mark (.inr (.inr rfl)) r)
    obtain ⟨c, t, hc, hopen⟩ := write_opens h.2.1
    rw [hc] at hx
    rw [hj, hc]
    simp only [List.map_append, List.map_cons, List.append_assoc, List.cons_append] at hx ⊢
    exact readMembers_last hopen (not_mem_keys hd) hx
  | k, x, (l, y) :: ms, sofar, fuel + 1, room, r, h, hd, hf => by
    obtain ⟨cs, rfl⟩ := Text.exists_ofChars h.1
    have hj : joinCommas (writeMembers ((Text.ofChars cs, x) :: (l, y) :: ms)) =
        renderString (Text.ofChars cs) ++ ':' :: write x ++ ',' :: joinCommas
          (writeMembers ((l, y) :: ms)) := rfl
    rw [hj, List.length_append, List.length_append, List.length_cons, List.length_cons] at hf
    have hd' : (((sofar ++ [(Text.ofChars cs, x)]) ++ (l, y) :: ms).map (·.1)).Nodup := by
      rwa [← List.append_cons]
    have hrest := readMembers_write l y ms (sofar ++ [(Text.ofChars cs, x)]) (r := r) h.2.2 hd'
      (show _ ≤ fuel by omega)
    obtain ⟨t, ht⟩ := writeMembers_cons_opens l y ms
    have hx := readValue_write x (r := .char ',' :: .char '"' :: (t.map .char ++ .char '\x7d' :: r)) h.2.1
      (show _ ≤ fuel by omega) (stops_mark (.inl rfl) _)
    obtain ⟨c, u, hc, hopen⟩ := write_opens h.2.1
    rw [hc] at hx
    rw [ht] at hrest
    rw [hj, hc, ht]
    simp only [List.map_append, List.map_cons, List.append_assoc, List.cons_append, List.nil_append]
      at hx hrest ⊢
    exact readMembers_next hopen (not_mem_keys hd) hx hrest

end

theorem skipSpace_text {cs : List Char} (hopen : ∃ c r, cs = c :: r ∧ opens c = true) :
    skipSpace (cs.map .char) = cs.map .char := by
  obtain ⟨c, r, rfl, hc⟩ := hopen
  exact skipSpace_of_opens hc _

theorem readWithin_write {v : Json} {room : Nat} (h : Readable room v) :
    readWithin room ((write v).map .char) = .ok v := by
  have hv := readValue_write v (r := []) h (show _ ≤ 2 * (write v).length + 2 by omega) stops_nil
  rw [List.append_nil] at hv
  rw [readWithin, skipSpace_text (write_opens h), List.length_map, hv]
  rfl

/-- **The canonical text of a value is read as the value in order.** -/
theorem read_render [Platform] {v : Json} (h : Readable Platform.readRoom v) :
    read (v.render.map .char) = .ok v.sorted := by
  rw [render_eq]
  exact readWithin_write h.sorted

/-! ## Canonical bytes -/

/-- The points of a text that is written in UTF-8. -/
theorem decodePoints_encode (cs : List Char) :
    Text.Utf8.decodePoints (Text.Utf8.encode cs) = some (cs.map .char) := by
  rw [← Text.Utf8.encodePoints_ofChars]
  exact Text.Utf8.decodePoints_encodePoints _

/-- Bytes are read as UTF-8 that start as an object does. -/
theorem bodyPoints_object {b : UInt8} (hb : b ≠ 0) (r : List UInt8) :
    bodyPoints (0x7b :: b :: r) = Text.Utf8.decodePoints (0x7b :: b :: r) := by
  rcases r with _ | ⟨c, _ | ⟨d, r⟩⟩
  · exact if_neg hb
  · rfl
  · exact if_neg hb

/-- **The canonical bytes of an object are read as the object in order.** -/
theorem readBody_canonical [Platform] {ms : Members} (h : Readable Platform.readRoom (.obj ms)) :
    readBody (Text.Utf8.encode (render (.obj ms))) = .ok (sorted (.obj ms)) := by
  have hpoints : bodyPoints (Text.Utf8.encode (render (.obj ms))) = some ((render (.obj ms)).map .char) := by
    obtain ⟨c, t, ht, hc⟩ : ∃ c t, render (.obj ms) = '\x7b' :: c :: t ∧ (c = '"' ∨ c = '\x7d') := by
      rw [render_eq, sorted]
      cases hms : inOrder (sortedMembers ms) with
      | nil => exact ⟨_, _, rfl, .inr rfl⟩
      | cons m rest =>
        obtain ⟨t, ht⟩ := writeMembers_cons_opens m.1 m.2 rest
        exact ⟨'"', t ++ ['\x7d'], by rw [write, ht]; rfl, .inl rfl⟩
    rw [← decodePoints_encode, ht]
    rcases hc with rfl | rfl <;> exact bodyPoints_object (by decide) _
  rw [readBody, hpoints]
  simp only [read_render h]

/-! ## Members -/

theorem get?_eq_some_iff {ms : Members} (hd : (ms.map (·.1)).Nodup) {key : Text} {v : Json} :
    ms.get? key = some v ↔ (key, v) ∈ ms := by
  unfold Members.get?
  induction ms with
  | nil => simp
  | cons m ms ih =>
    obtain ⟨k, x⟩ := m
    rw [List.map_cons, List.nodup_cons] at hd
    rw [List.lookup_cons, List.mem_cons]
    by_cases hk : key = k
    · subst hk
      have hnot : (key, v) ∉ ms := fun hm => hd.1 (List.mem_map_of_mem (f := (·.1)) hm)
      simp [hnot, eq_comm]
    · have hb : (key == k) = false := by simpa using hk
      rw [hb]
      simp only [ih hd.2, Prod.mk.injEq, hk, false_and, false_or]

theorem get?_perm {ms ms' : Members} (hp : ms'.Perm ms) (hd : (ms.map (·.1)).Nodup) (key : Text) :
    ms'.get? key = ms.get? key := by
  have hd' : (ms'.map (·.1)).Nodup := (hp.map _).nodup_iff.mpr hd
  exact Option.ext fun v => by
    rw [get?_eq_some_iff hd', get?_eq_some_iff hd, hp.mem_iff]

theorem get?_sortedMembers (ms : Members) (key : Text) :
    Members.get? (sortedMembers ms) key = (ms.get? key).map sorted := by
  unfold Members.get?
  induction ms with
  | nil => rfl
  | cons m ms ih =>
    obtain ⟨k, x⟩ := m
    rw [sortedMembers, List.lookup_cons, List.lookup_cons]
    split
    · rfl
    · exact ih

/-- **A member of an object in order is that of the object, in order.** -/
theorem get?_sorted {ms : Members} (hd : (ms.map (·.1)).Nodup) (key : Text) :
    (sorted (.obj ms)).get? key = (ms.get? key).map sorted := by
  have hd' : ((sortedMembers ms).map (·.1)).Nodup := by rwa [sortedMembers_keys]
  rw [sorted, get?, get?_perm (inOrder_perm _) hd', get?_sortedMembers]

end Json

end DidRegistry
