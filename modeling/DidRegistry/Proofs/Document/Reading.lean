import DidRegistry.Proofs.Biography.Refusal
import DidRegistry.Proofs.Document.Lookup

/-!
# Reading a document

Whatever value is read as a DID document, it gives one or it is refused as malformed, and which of the two
can be said without reading it: a document names its subject, its methods stand in one of two members,
each of them names itself and possibly a controller, and the document names those who control it.  Members
that are missing, null or of another type are told apart where the difference matters.

## Results

* `DidDocument.methodsOf_eq_ok_iff`, `DidDocument.entriesOf_eq_ok_iff`,
  `DidDocument.controllersOf_eq_ok_iff` — which values give methods, entries and controllers, and which
  ones.
* `DidDocument.ofJson_eq_ok_iff` — which values give a document, and which one.
* `DidDocument.isShown_of_ofJson` — a refusal shows nothing but what lies in the value.
* `DidDocument.ofJson_read_or_refused` — **a value gives the one document that it describes, or it is
  refused as malformed and describes none**.
-/

set_option autoImplicit false

namespace DidRegistry

/-! ## What is described -/

/-- A value names a DID: it is a text that spells it, but for white space around it. -/
def Did.Named (v : Json) (d : Did) : Prop := ∃ t, v = .str t ∧ Spelled t.strip.chars d

/-- A value names a DID URL, if need be relative to a base: it is a text that spells it, but for white
space around it and in front of its mark. -/
def DidUrl.Named (base : Option Did) (v : Json) (u : DidUrl) : Prop :=
  ∃ t, v = .str t ∧ (Spelled base t.strip u ∨ Gapped t.strip u)

namespace DidDocument

/-- The controller of a method, by the member of its entry: the DID that is named there, or the subject
when the member is missing or stands for nothing. -/
inductive ControlledBy (subject : Did) : Option Json → Did → Prop where
  | another {v : Json} {d : Did} (present : v.isPresent = true) (named : Did.Named v d) :
      ControlledBy subject (some v) d
  | itself {v : Option Json} (absent : ∀ x ∈ v, x.isPresent = false) : ControlledBy subject v subject

/-- An entry describes a method of a subject: it is an object, its identifier is that of the method,
resolved against the subject, and type and key are taken over as they are. -/
structure DescribesMethod (subject : Did) (entry : Json) (m : VerificationMethod) : Prop where
  object : ∃ ms, entry = .obj ms
  id : ∃ id, entry.get? "id" = some id ∧ DidUrl.Named (some subject) id m.id
  controller : ControlledBy subject (entry.get? "controller") m.controller
  type : m.type = (entry.get? "type").getD (.str "")
  base58 : m.base58 = (entry.get? "publicKeyBase58").getD .null
  jwk : m.jwk = (entry.get? "publicKeyJwk").getD .null

/-- The entries of a document: those of `verificationMethod`, or of `publicKey` when that is missing or
null. -/
inductive Lists (v : Json) : List Json → Prop where
  | current {items : List Json} (given : v.get? "verificationMethod" = some (.arr items)) : Lists v items
  | former {items : List Json} (absent : (v.get? "verificationMethod").getD .null = .null)
      (given : v.get? "publicKey" = some (.arr items)) : Lists v items
  | nowhere (absent : (v.get? "verificationMethod").getD .null = .null)
      (missing : v.get? "publicKey" = none) :
      Lists v []

/-- The controllers of a document, by the member that names them: none, one, or a list of them in order. -/
inductive Controls : Option Json → List Did → Prop where
  | missing : Controls none []
  | null : Controls (some .null) []
  | one {t : Text} {d : Did} (named : Did.Named (.str t) d) : Controls (some (.str t)) [d]
  | many {items : List Json} {ds : List Did} (named : List.Forall₂ Did.Named items ds) :
      Controls (some (.arr items)) ds

/-- A value describes a document: an object that names its subject, with one entry for each method in
order, and with the controllers. -/
structure Describes (v : Json) (isDeactivated : Bool) (d : DidDocument) : Prop where
  object : ∃ ms, v = .obj ms
  subject : ∃ id, v.get? "id" = some id ∧ Did.Named id d.subject
  methods : ∃ entries, Lists v entries ∧ List.Forall₂ (DescribesMethod d.subject) entries d.methods
  controllers : Controls (v.get? "controller") d.controllers
  mark : d.isDeactivated = isDeactivated

end DidDocument

/-! ## Identifiers -/

theorem Did.parse_eq_ok_iff {v : Json} {d : Did} : Did.parse v = .ok d ↔ Did.Named v d := by
  constructor
  · intro h
    obtain ⟨t, rfl, ht⟩ := Did.parse_eq_ok h
    exact ⟨t, rfl, Did.ofChars?_eq_some_iff.mp ht⟩
  · rintro ⟨t, rfl, ht⟩
    show Did.ofText t = .ok d
    unfold Did.ofText
    rw [Did.ofChars?_eq_some_iff.mpr ht]

theorem DidUrl.parse_eq_ok_iff_named {v : Json} {base : Option Did} {u : DidUrl} :
    DidUrl.parse v base = .ok u ↔ DidUrl.Named base v u := by
  constructor
  · intro h
    obtain ⟨t, rfl, -⟩ := DidUrl.parse_eq_ok h
    exact ⟨t, rfl, DidUrl.parse_eq_ok_iff.mp h⟩
  · rintro ⟨t, rfl, ht⟩
    exact DidUrl.parse_eq_ok_iff.mpr ht

namespace DidDocument

/-! ## Methods -/

section

variable {subject : Did}

theorem controllerOf_eq_ok_iff {v : Option Json} {d : Did} :
    controllerOf subject (v.getD .null) = .ok d ↔ ControlledBy subject v d := by
  cases v with
  | none =>
    constructor
    · intro h
      cases h
      exact .itself fun x hx => nomatch hx
    · rintro ⟨⟩
      rfl
  | some x =>
    show (if x.isPresent then Did.parse x else .ok subject) = .ok d ↔ _
    cases hx : x.isPresent with
    | true =>
      rw [if_pos rfl, Did.parse_eq_ok_iff]
      constructor
      · exact .another hx
      · rintro (⟨-, named⟩ | absent)
        · exact named
        · cases hx.symm.trans (absent x rfl)
    | false =>
      rw [if_neg Bool.false_ne_true]
      constructor
      · intro h
        cases h
        exact .itself fun y hy => Option.mem_some_iff.mp hy ▸ hx
      · rintro (⟨present, -⟩ | -)
        · cases hx.symm.trans present
        · rfl

theorem methodOf_eq_ok_iff {entry : Json} {m : VerificationMethod} :
    methodOf subject entry = .ok m ↔ DescribesMethod subject entry m := by
  constructor
  · intro h
    obtain ⟨⟨id, hid, hurl⟩, hcontroller, htype, hbase58, hjwk⟩ := methodOf_eq_ok h
    refine ⟨?_, ⟨id, hid, DidUrl.parse_eq_ok_iff_named.mp hurl⟩, controllerOf_eq_ok_iff.mp hcontroller, htype,
      hbase58, hjwk⟩
    cases entry with
    | obj ms => exact ⟨ms, rfl⟩
    | _ => cases h
  · rintro ⟨⟨ms, rfl⟩, ⟨id, hid, hurl⟩, hcontroller, htype, hbase58, hjwk⟩
    simp only [methodOf, hid, DidUrl.parse_eq_ok_iff_named.mpr hurl, controllerOf_eq_ok_iff.mpr hcontroller,
      ← htype, ← hbase58, ← hjwk]

end

theorem forall₂_iff_of_steps {α β ε : Type} (read : List α → Except ε (List β)) (step : α → Except ε β)
    (nil : read [] = .ok []) (cons : ∀ x xs, read (x :: xs) = (step x).bind fun y => (read xs).map (y :: ·))
    {Gives : α → β → Prop} (gives : ∀ x y, step x = .ok y ↔ Gives x y) {xs : List α} {ys : List β} :
    read xs = .ok ys ↔ List.Forall₂ Gives xs ys := by
  induction xs generalizing ys with
  | nil =>
    rw [nil, List.forall₂_nil_left_iff]
    exact ⟨fun h => (Except.ok.inj h).symm, fun h => h ▸ rfl⟩
  | cons x xs ih =>
    rw [cons, List.forall₂_cons_left_iff]
    constructor
    · intro h
      obtain ⟨y, hy, h⟩ := bind_eq_ok.mp h
      obtain ⟨rest, hrest, rfl⟩ := map_eq_ok.mp h
      exact ⟨y, rest, (gives x y).mp hy, ih.mp hrest, rfl⟩
    · rintro ⟨y, rest, hy, hrest, rfl⟩
      exact bind_eq_ok.mpr ⟨y, (gives x y).mpr hy, map_eq_ok.mpr ⟨rest, ih.mpr hrest, rfl⟩⟩

/-- Which entries give methods, and which ones: one for each entry, in order. -/
theorem methodsOf_eq_ok_iff {subject : Did} {entries : List Json} {ms : List VerificationMethod} :
    methodsOf subject entries = .ok ms ↔ List.Forall₂ (DescribesMethod subject) entries ms := by
  refine forall₂_iff_of_steps (methodsOf subject) (methodOf subject) rfl (fun entry rest => ?_)
    fun _ _ => methodOf_eq_ok_iff
  rw [methodsOf]
  cases methodOf subject entry <;> rfl

/-- Which values list entries, and which ones. -/
theorem entriesOf_eq_ok_iff {v : Json} {entries : List Json} :
    entriesOf v = .ok entries ↔ Lists v entries := by
  constructor
  · intro h
    unfold entriesOf at h
    generalize hx : (v.get? "verificationMethod").getD .null = x at h
    cases x with
    | arr items =>
      cases h
      cases hv : v.get? "verificationMethod" with
      | none => simp [hv] at hx
      | some y => exact .current (hv.trans (by simpa [hv] using hx))
    | null =>
      cases hkey : v.get? "publicKey" with
      | none =>
        rw [hkey] at h
        cases h
        exact .nowhere hx hkey
      | some y =>
        rw [hkey] at h
        cases y with
        | arr items =>
          cases h
          exact .former hx hkey
        | _ => cases h
    | _ => cases h
  · intro h
    unfold entriesOf
    cases h with
    | current given => simp [given]
    | former absent given => simp [absent, given]
    | nowhere absent missing => simp [absent, missing]

/-! ## Controllers -/

theorem didsOf_eq_ok_iff {items : List Json} {ds : List Did} :
    didsOf items = .ok ds ↔ List.Forall₂ Did.Named items ds := by
  refine forall₂_iff_of_steps didsOf (fun v => (Did.parse v).mapError .identifier) rfl (fun v rest => ?_)
    fun _ _ => mapError_eq_ok.trans Did.parse_eq_ok_iff
  rw [didsOf]
  cases Did.parse v <;> rfl

theorem controllersOf_eq_ok_iff {v : Option Json} {ds : List Did} :
    controllersOf (v.getD .null) = .ok ds ↔ Controls v ds := by
  cases v with
  | none =>
    constructor
    · intro h
      cases h
      exact .missing
    · rintro ⟨⟩
      rfl
  | some x =>
    show controllersOf x = .ok ds ↔ _
    cases x with
    | null =>
      constructor
      · intro h
        cases h
        exact .null
      · rintro ⟨⟩
        rfl
    | str t =>
      show didsOf [.str t] = .ok ds ↔ _
      rw [didsOf_eq_ok_iff]
      constructor
      · rintro (_ | ⟨named, ⟨⟩⟩)
        exact .one named
      · rintro ⟨⟩
        rename_i named
        exact .cons named .nil
    | arr items =>
      show didsOf items = .ok ds ↔ _
      rw [didsOf_eq_ok_iff]
      constructor
      · exact .many
      · rintro ⟨⟩
        assumption
    | _ =>
      refine iff_of_false (fun h => ?_) fun h => ?_
      · cases h
      · cases h

/-! ## Documents -/

/-- **Which values give a document, and which one.** -/
theorem ofJson_eq_ok_iff {v : Json} {isDeactivated : Bool} {d : DidDocument} :
    ofJson v isDeactivated = .ok d ↔ Describes v isDeactivated d := by
  constructor
  · intro h
    obtain ⟨⟨id, hid, hsubject⟩, ⟨entries, hentries, hmethods⟩, hcontrollers, hmark⟩ := ofJson_eq_ok h
    refine ⟨?_, ⟨id, hid, Did.parse_eq_ok_iff.mp hsubject⟩,
      ⟨entries, entriesOf_eq_ok_iff.mp hentries, methodsOf_eq_ok_iff.mp hmethods⟩,
      controllersOf_eq_ok_iff.mp hcontrollers, hmark⟩
    cases v with
    | obj ms => exact ⟨ms, rfl⟩
    | _ => cases h
  · rintro ⟨⟨ms, rfl⟩, ⟨id, hid, hsubject⟩, ⟨entries, hentries, hmethods⟩, hcontrollers, hmark⟩
    have hread : subjectOf (.obj ms) = .ok d.subject := by
      simp only [subjectOf, hid, Did.parse_eq_ok_iff.mpr hsubject]
      rfl
    refine bind_eq_ok.mpr ⟨d.subject, hread, bind_eq_ok.mpr ⟨entries, entriesOf_eq_ok_iff.mpr hentries, ?_⟩⟩
    refine bind_eq_ok.mpr ⟨d.methods, methodsOf_eq_ok_iff.mpr hmethods, ?_⟩
    refine bind_eq_ok.mpr ⟨d.controllers, controllersOf_eq_ok_iff.mpr hcontrollers, ?_⟩
    rw [← hmark]
    rfl

/-! ## Refusals -/

end DidDocument

namespace DocumentError

/-- The failure that the error was raised from: a member that is missing, or a malformed identifier. -/
def cause? : DocumentError → Option Report
  | .missing key => some (.plain .missingMember (say (Text.quoted key)))
  | .identifier e => some e.report
  | _ => none

variable [Platform]

/-- The value is refused as a malformed document, with the code of that failure, and the refusal names the
failure that it was raised from. -/
structure IsMalformed (e : DocumentError) : Prop where
  wraps : e.report.Wraps .malformedDocument [.missingMember, .malformedIdentifier] e.cause?
  code : e.report.code = some "MALFORMED_DOCUMENT"

/-- All that the refusal shows can be shown. -/
def IsShown (e : DocumentError) : Prop := ∀ v ∈ e.shown, v.IsShowable Platform.showRoom

/-- Something that the refusal shows cannot be shown, as a whole number in it is too long or it lies too deep,
and that is the failure. -/
structure IsUntold (e : DocumentError) : Prop where
  unshown : ¬e.IsShown
  kind : e.report.kind = .value ∨ e.report.kind = .tooDeep

variable {e : DocumentError}

theorem IsShown.silent (h : e.shown = []) : e.IsShown := fun _ hv => absurd (h ▸ hv) List.not_mem_nil

theorem isMalformed (h : e.IsShown) : e.IsMalformed := by
  have hreport : e.report = e.told := Report.showingWithin_of_showable h _
  cases e with
  | missing key =>
    refine ⟨?_, by rw [hreport]; rfl⟩
    rw [hreport]
    exact Report.wraps_because rfl (by simp [Report.plain])
  | identifier e =>
    have hshort : e.isShown = true := List.all_eq_true.mpr fun v hv => (h v hv).short
    refine ⟨?_, by rw [hreport]; rfl⟩
    rw [hreport]
    exact Report.wraps_because rfl (by simp [IdentifierError.kind_of_isShown hshort])
  | _ =>
    refine ⟨?_, by rw [hreport]; rfl⟩
    rw [hreport]
    exact Report.wraps_none rfl rfl

end DocumentError

/-! ## What can be shown -/

theorem Did.showsTexts_of_parse {v : Json} {e : IdentifierError} (h : Did.parse v = .error e) :
    e.ShowsTexts := by
  cases v with
  | str t => exact showsTexts_of_ofText h
  | _ =>
    cases h
    exact fun _ hx => absurd hx List.not_mem_nil

variable [Platform] {e : DocumentError}

theorem IdentifierError.ShowsTexts.document {e : IdentifierError} (h : e.ShowsTexts) :
    (DocumentError.identifier e).IsShown := fun v hv => by
  obtain ⟨t, rfl⟩ := h v hv
  exact .str t

theorem DidUrl.isShown_of_parse {v : Json} {base : Option Did} {e : IdentifierError}
    (hv : v.IsShowable Platform.showRoom) (h : DidUrl.parse v base = .error e) :
    (DocumentError.identifier e).IsShown := by
  cases v with
  | str t => exact (showsTexts_of_parse h).document
  | _ =>
    cases h
    exact List.forall_mem_singleton.mpr hv

namespace DidDocument

theorem isShown_of_subjectOf {v : Json} (h : subjectOf v = .error e) : e.IsShown := by
  unfold subjectOf at h
  split at h
  · cases h
    exact .silent rfl
  · obtain ⟨fault, hfault, rfl⟩ := mapError_eq_error.mp h
    exact (Did.showsTexts_of_parse hfault).document

theorem isShown_of_entriesOf {v : Json} (h : entriesOf v = .error e) : e.IsShown := by
  unfold entriesOf at h
  dsimp only at h
  split at h
  · cases h
  · cases h
    exact .silent rfl

theorem isShown_of_methodOf {subject : Did} {entry : Json} (hv : entry.IsShowable Platform.showRoom)
    (h : methodOf subject entry = .error e) : e.IsShown := by
  unfold methodOf at h
  split at h
  · split at h
    · cases h
      exact .silent rfl
    rename_i id hid
    have hpart := (hv.mono (Nat.le_succ _)).member "id"
    rw [hid, Option.getD_some] at hpart
    split at h
    · rename_i hurl
      cases h
      exact DidUrl.isShown_of_parse hpart hurl
    split at h
    · rename_i fault hcontroller
      cases h
      unfold controllerOf at hcontroller
      split at hcontroller
      · exact (Did.showsTexts_of_parse hcontroller).document
      · cases hcontroller
    · cases h
  · cases h
    exact List.forall_mem_singleton.mpr hv

theorem isShown_of_methodsOf {subject : Did} {entries : List Json}
    (hv : ∀ x ∈ entries, x.IsShowable Platform.showRoom) (h : methodsOf subject entries = .error e) :
    e.IsShown := by
  induction entries with
  | nil => cases h
  | cons entry entries ih =>
    obtain ⟨hentry, hentries⟩ := List.forall_mem_cons.mp hv
    unfold methodsOf at h
    split at h
    · rename_i hm
      cases h
      exact isShown_of_methodOf hentry hm
    · exact ih hentries (map_eq_error.mp h)

theorem isShown_of_didsOf {items : List Json} (h : didsOf items = .error e) : e.IsShown := by
  induction items with
  | nil => cases h
  | cons v vs ih =>
    unfold didsOf at h
    split at h
    · rename_i hd
      cases h
      exact (Did.showsTexts_of_parse hd).document
    · exact ih (map_eq_error.mp h)

theorem isShown_of_controllersOf {v : Json} (h : controllersOf v = .error e) : e.IsShown := by
  unfold controllersOf at h
  split at h
  · cases h
  · exact isShown_of_didsOf h
  · split at h
    · exact isShown_of_didsOf h
    · cases h
      exact .silent rfl

omit [Platform] in
theorem isShowable_of_entriesOf {v : Json} {entries : List Json} {room : Nat} (hv : v.IsShowable (room + 1))
    (h : entriesOf v = .ok entries) : ∀ x ∈ entries, x.IsShowable room := by
  cases entriesOf_eq_ok_iff.mp h with
  | current given =>
    have hpart := hv.member "verificationMethod"
    rw [given] at hpart
    exact (hpart.mono (Nat.le_succ _)).item
  | former absent given =>
    have hpart := hv.member "publicKey"
    rw [given] at hpart
    exact (hpart.mono (Nat.le_succ _)).item
  | nowhere => simp

/-- What a refusal shows lies in the value that is refused. -/
theorem isShown_of_ofJson {v : Json} {isDeactivated : Bool} (hv : v.IsShowable (Platform.showRoom + 1))
    (h : ofJson v isDeactivated = .error e) : e.IsShown := by
  unfold ofJson at h
  split at h
  · rcases bind_eq_error.mp h with hsubject | ⟨subject, -, h⟩
    · exact isShown_of_subjectOf hsubject
    rcases bind_eq_error.mp h with hentries | ⟨entries, hentries, h⟩
    · exact isShown_of_entriesOf hentries
    rcases bind_eq_error.mp h with hmethods | ⟨methods, -, h⟩
    · exact isShown_of_methodsOf (isShowable_of_entriesOf hv hentries) hmethods
    rcases bind_eq_error.mp h with hcontrollers | ⟨controllers, -, h⟩
    · exact isShown_of_controllersOf hcontrollers
    · cases h
  · cases h
    exact .silent rfl

/-- The older of the two members is read when the newer one is null. -/
example :
    (ofJson (.obj [("id", .str " did:example:123"), ("verificationMethod", .null),
      ("publicKey", .arr [.obj [("id", .str "#k"), ("controller", .str "did:example:456")],
        .obj [("id", .str "#l")]]),
      ("controller", .str "did:example:789")]) false).toOption =
      some ⟨⟨"example", "123"⟩, [⟨⟨⟨"example", "123"⟩, "k"⟩, .str "", ⟨"example", "456"⟩, .null, .null⟩,
        ⟨⟨⟨"example", "123"⟩, "l"⟩, .str "", ⟨"example", "123"⟩, .null, .null⟩], [⟨"example", "789"⟩],
          false⟩ := by
  decide +kernel

end DidDocument

end DidRegistry
