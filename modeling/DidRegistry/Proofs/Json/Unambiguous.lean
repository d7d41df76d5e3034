import DidRegistry.Proofs.Json.Order

/-!
# Canonical JSON tells values apart

The texts of two values cannot run into one another: wherever the one ends and whatever comes after it, a
text that starts with it starts with the text of no other value.  Strings end at the first quote that is not
escaped, numbers where their digits do, lists and objects at the bracket of their own depth.  Nothing here
reads a text, so numbers of any size and values of any depth are told apart, also those that the reader
refuses.

## Results

* `Json.joinCommas_append_inj` — texts between commas can be taken apart when each of them can.
* `Json.write_append_inj` — **the text of a value is the start of the text of no other**.
* `Json.render_eq_iff` — **values have the same canonical text exactly when they are equal up to the order
  of members**.
-/

set_option autoImplicit false

namespace DidRegistry.Json

variable {fits : Int → Prop} {v w : Json} {r s : List Point}

/-! ## Scalars -/

theorem bool_append_inj {a b : Bool}
    (h : (write (.bool a)).map .char ++ r = (write (.bool b)).map .char ++ s) : a = b ∧ r = s := by
  have hread := congrArg readScalar h
  rw [write, write, readScalar_bool, readScalar_bool] at hread
  obtain ⟨hbool, hrest⟩ := Prod.mk.inj (Except.ok.inj hread)
  exact ⟨Json.bool.inj hbool, hrest⟩

theorem renderString_append_inj {t u : Text} (ht : t.isWellFormed = true) (hu : u.isWellFormed = true)
    (h : (renderString t).map .char ++ r = (renderString u).map .char ++ s) : t = u ∧ r = s := by
  obtain ⟨cs, rfl⟩ := Text.exists_ofChars ht
  obtain ⟨ds, rfl⟩ := Text.exists_ofChars hu
  simp only [renderString_ofChars, List.map_cons, List.map_append, List.map_nil, List.cons_append,
    List.append_assoc, List.nil_append] at h
  -- both are read up to the quote that closes them
  have hread := congrArg readText (List.cons.inj h).2
  rw [readText_renderChars, readText_renderChars] at hread
  exact Prod.mk.inj (Except.ok.inj hread)

theorem decimal_append_inj {m n : Nat} (hr : Stops r) (hs : Stops s)
    (h : (Text.decimal m).map .char ++ r = (Text.decimal n).map .char ++ s) : m = n ∧ r = s := by
  obtain ⟨d, ds, hm, hd, rfl, -⟩ := exists_digits m
  obtain ⟨e, es, hn, he, rfl, -⟩ := exists_digits n
  have hspan := congrArg spanDigits h
  rw [hm, hn, spanDigits_digits hd hr, spanDigits_digits he hs] at hspan
  obtain ⟨hdigits, hrest⟩ := Prod.mk.inj hspan
  exact ⟨by rw [hdigits], hrest⟩

theorem decimal_append_ne_minus {n : Nat} {t : List Point} :
    (Text.decimal n).map .char ++ r ≠ .char '-' :: t := by
  obtain ⟨d, ds, hd, he⟩ := decimal_eq_cons n
  rw [he]
  exact fun h => decimalDigit_ne hd (by decide) (Point.char.inj (List.cons.inj h).1)

theorem signedDecimal_append_inj {m n : Int} (hr : Stops r) (hs : Stops s)
    (h : (Text.signedDecimal m).map .char ++ r = (Text.signedDecimal n).map .char ++ s) : m = n ∧ r = s := by
  unfold Text.signedDecimal at h
  split at h <;> split at h
  · obtain ⟨habs, hrest⟩ := decimal_append_inj hr hs (List.cons.inj h).2
    exact ⟨by omega, hrest⟩
  · exact absurd h.symm decimal_append_ne_minus
  · exact absurd h decimal_append_ne_minus
  · obtain ⟨habs, hrest⟩ := decimal_append_inj hr hs h
    exact ⟨by omega, hrest⟩

/-! ## First characters -/

/-- The character that stands for how the text of a value starts. -/
def lead : Json → Char
  | .null => 'n'
  | .bool _ => 't'
  | .int _ | .real _ => '0'
  | .str _ => '"'
  | .arr _ => '['
  | .obj _ => '\x7b'

/-- The character that stands for a first character: one for both truth values and one for all numbers. -/
def leadOf (c : Char) : Char :=
  if c = 'f' then 't' else if c = '-' ∨ (Text.asciiDigit? c).isSome then '0' else c

theorem leadOf_decimalDigit : ∀ d < 10, leadOf (Text.decimalDigit d) = '0' := by decide

/-- The first character of the text of a value says of which kind the value is. -/
theorem write_lead (h : Plain fits v) : ∃ c cs, write v = c :: cs ∧ leadOf c = lead v := by
  cases h with
  | null => exact ⟨'n', _, rfl, by decide⟩
  | bool b => cases b <;> exact ⟨_, _, rfl, by decide⟩
  | @int n size =>
    obtain ⟨d, ds, hd, he⟩ := decimal_eq_cons n.natAbs
    by_cases hneg : n < 0
    · exact ⟨'-', Text.decimal n.natAbs, if_pos hneg, rfl⟩
    · exact ⟨_, ds, (if_neg hneg).trans he, leadOf_decimalDigit d hd⟩
  | str characters => exact ⟨'"', _, rfl, rfl⟩
  | arr plain => exact ⟨'[', _, rfl, rfl⟩
  | obj distinct characters plain => exact ⟨_, _, rfl, rfl⟩

theorem lead_eq (hv : Plain fits v) (hw : Plain fits w)
    (h : (write v).map .char ++ r = (write w).map .char ++ s) : lead v = lead w := by
  obtain ⟨c, cs, hc, hcv⟩ := write_lead hv
  obtain ⟨d, ds, hd, hdw⟩ := write_lead hw
  rw [hc, hd] at h
  rw [← hcv, ← hdw, Point.char.inj (List.cons.inj h).1]

theorem write_ne_close (h : Plain fits v) : ∃ c cs, write v = c :: cs ∧ c ≠ ']' := by
  obtain ⟨c, cs, hc, hlead⟩ := write_lead h
  refine ⟨c, cs, hc, ?_⟩
  rintro rfl
  cases v <;> cases hlead

/-! ## Lists -/

section

variable {α : Type} {f : α → List Char} {close : Char}

/-- What comes after an element of a list: what closes the list, or a comma and the next elements. -/
def afterElement (f : α → List Char) (close : Char) (xs : List α) (r : List Point) : List Point :=
  if xs.isEmpty then .char close :: r
  else .char ',' :: ((joinCommas (xs.map f)).map .char ++ .char close :: r)

theorem joinCommas_cons (x : α) (xs : List α) (r : List Point) :
    (joinCommas ((x :: xs).map f)).map .char ++ .char close :: r =
      (f x).map .char ++ afterElement f close xs r := by
  cases xs with
  | nil => rfl
  | cons y ys => simp [joinCommas, afterElement]

theorem stops_afterElement (hclose : close = ']' ∨ close = '\x7d') (xs : List α) (r : List Point) :
    Stops (afterElement f close xs r) := by
  unfold afterElement
  split
  · exact stops_mark (.inr hclose) r
  · exact stops_mark (.inl rfl) _

theorem joinCommas_append_ne_close {x : α} {xs : List α} {t : List Point}
    (hopen : ∃ c cs, f x = c :: cs ∧ c ≠ close) :
    (joinCommas ((x :: xs).map f)).map .char ++ .char close :: r ≠ .char close :: t := by
  obtain ⟨c, cs, hc, hne⟩ := hopen
  rw [joinCommas_cons, hc]
  exact fun h => hne (Point.char.inj (List.cons.inj h).1)

/-- **Texts between commas can be taken apart when each of them can**, and none starts with what closes
them. -/
theorem joinCommas_append_inj (hclose : close = ']' ∨ close = '\x7d') {xs ys : List α}
    (hinj : ∀ x ∈ xs, ∀ y ∈ ys, ∀ {r s : List Point}, Stops r → Stops s →
      (f x).map .char ++ r = (f y).map .char ++ s → x = y ∧ r = s)
    (hxs : ∀ x ∈ xs, ∃ c cs, f x = c :: cs ∧ c ≠ close) (hys : ∀ y ∈ ys, ∃ c cs, f y = c :: cs ∧ c ≠ close)
    (h : (joinCommas (xs.map f)).map .char ++ .char close :: r =
      (joinCommas (ys.map f)).map .char ++ .char close :: s) : xs = ys ∧ r = s := by
  induction xs generalizing ys with
  | nil =>
    cases ys with
    | nil => exact ⟨rfl, (List.cons.inj h).2⟩
    | cons y ys => exact absurd h.symm (joinCommas_append_ne_close (hys y List.mem_cons_self))
  | cons x xs ih =>
    cases ys with
    | nil => exact absurd h (joinCommas_append_ne_close (hxs x List.mem_cons_self))
    | cons y ys =>
      rw [joinCommas_cons, joinCommas_cons] at h
      obtain ⟨rfl, hrest⟩ := hinj x List.mem_cons_self y List.mem_cons_self
        (stops_afterElement hclose xs r) (stops_afterElement hclose ys s) h
      have hcomma : close ≠ ',' := by rcases hclose with rfl | rfl <;> decide
      -- both lists end here, or both go on behind a comma
      cases xs with
      | nil =>
        cases ys with
        | nil => exact ⟨rfl, (List.cons.inj hrest).2⟩
        | cons z zs => exact absurd (Point.char.inj (List.cons.inj hrest).1) hcomma
      | cons z zs =>
        cases ys with
        | nil => exact absurd (Point.char.inj (List.cons.inj hrest).1).symm hcomma
        | cons u us =>
          obtain ⟨htail, hrs⟩ := ih (fun x hx y hy => hinj x (List.mem_cons_of_mem _ hx) y
            (List.mem_cons_of_mem _ hy)) (fun x hx => hxs x (List.mem_cons_of_mem _ hx))
            (fun y hy => hys y (List.mem_cons_of_mem _ hy)) (List.cons.inj hrest).2
          exact ⟨by rw [htail], hrs⟩

end

/-! ## Values -/

theorem writeItems_eq (items : List Json) : writeItems items = items.map write := by
  induction items with
  | nil => rfl
  | cons x r ih => rw [writeItems, ih]; rfl

theorem write_arr (items : List Json) (r : List Point) : (write (.arr items)).map .char ++ r =
    .char '[' :: ((joinCommas (items.map write)).map .char ++ .char ']' :: r) := by
  simp [write, writeItems_eq]

/-- The text of a member. -/
def writeMember (m : Text × Json) : List Char := renderString m.1 ++ ':' :: write m.2

theorem write_obj (ms : Members) (r : List Point) : (write (.obj ms)).map .char ++ r =
    .char '\x7b' :: ((joinCommas (ms.map writeMember)).map .char ++ .char '\x7d' :: r) := by
  simp only [write, writeMembers_eq, List.map_cons, List.map_append, List.map_nil, List.cons_append,
    List.append_assoc, List.nil_append]
  rfl

theorem writeMember_opens (m : Text × Json) : ∃ c cs, writeMember m = c :: cs ∧ c ≠ '\x7d' :=
  ⟨'"', _, rfl, by decide⟩

/-- **The text of a value is the start of the text of no other**, whatever comes after either of them. -/
theorem write_append_inj (hv : Plain fits v) (hw : Plain fits w) (hr : Stops r) (hs : Stops s)
    (h : (write v).map .char ++ r = (write w).map .char ++ s) : v = w ∧ r = s := by
  induction hv generalizing w r s with
  | null =>
    have hlead := lead_eq .null hw h
    cases hw with
    | null => exact ⟨rfl, List.append_cancel_left h⟩
    | _ => cases hlead
  | bool b =>
    have hlead := lead_eq (.bool b) hw h
    cases hw with
    | bool b' =>
      obtain ⟨rfl, hrest⟩ := bool_append_inj h
      exact ⟨rfl, hrest⟩
    | _ => cases hlead
  | @int n size =>
    have hlead := lead_eq (.int size) hw h
    cases hw with
    | int =>
      obtain ⟨rfl, hrest⟩ := signedDecimal_append_inj hr hs h
      exact ⟨rfl, hrest⟩
    | _ => cases hlead
  | @str t characters =>
    have hlead := lead_eq (.str characters) hw h
    cases hw with
    | str characters' =>
      obtain ⟨rfl, hrest⟩ := renderString_append_inj characters characters' h
      exact ⟨rfl, hrest⟩
    | _ => cases hlead
  | @arr xs plain ih =>
    have hlead := lead_eq (.arr plain) hw h
    cases hw with
    | @arr ys plain' =>
      rw [write_arr, write_arr] at h
      obtain ⟨rfl, hrest⟩ := joinCommas_append_inj (.inl rfl)
        (fun x hx y hy _ _ hr hs => ih x hx (plain' y hy) hr hs) (fun x hx => write_ne_close (plain x hx))
        (fun y hy => write_ne_close (plain' y hy)) (List.cons.inj h).2
      exact ⟨rfl, hrest⟩
    | _ => cases hlead
  | @obj ms distinct characters plain ih =>
    have hlead := lead_eq (.obj distinct characters plain) hw h
    cases hw with
    | @obj ns distinct' characters' plain' =>
      rw [write_obj, write_obj] at h
      have hmember : ∀ m ∈ ms, ∀ n ∈ ns, ∀ {r s : List Point}, Stops r → Stops s →
          (writeMember m).map .char ++ r = (writeMember n).map .char ++ s → m = n ∧ r = s := by
        intro m hm n hn r s hr hs h
        simp only [writeMember, List.map_append, List.map_cons, List.append_assoc, List.cons_append] at h
        obtain ⟨hkey, hvalue⟩ := renderString_append_inj (characters m hm) (characters' n hn) h
        obtain ⟨hval, hrest⟩ := ih m hm (plain' n hn) hr hs (List.cons.inj hvalue).2
        exact ⟨Prod.ext hkey hval, hrest⟩
      obtain ⟨rfl, hrest⟩ := joinCommas_append_inj (.inr rfl) hmember (fun m _ => writeMember_opens m)
        (fun n _ => writeMember_opens n) (List.cons.inj h).2
      exact ⟨rfl, hrest⟩
    | _ => cases hlead

theorem write_inj (hv : Plain fits v) (hw : Plain fits w) (h : write v = write w) : v = w :=
  (write_append_inj hv hw stops_nil stops_nil (by rw [h])).1

/-- **Values have the same canonical text exactly when they are equal up to the order of members.** -/
theorem render_eq_iff (hv : Plain fits v) (hw : Plain fits w) : render v = render w ↔ Reordered v w := by
  rw [render_eq, render_eq, ← sorted_eq_iff hv]
  exact ⟨write_inj hv.sorted hw.sorted, congrArg write⟩

end DidRegistry.Json
