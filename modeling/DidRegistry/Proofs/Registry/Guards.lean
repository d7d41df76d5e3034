import DidRegistry.Platform.Usual
import DidRegistry.Registry.Basic
import DidRegistry.Proofs.Biography.Document
import DidRegistry.Proofs.Operation.Published
import DidRegistry.Proofs.Publisher.Course
import DidRegistry.Proofs.Publisher.Publishable
import DidRegistry.Proofs.Publisher.Recall
import DidRegistry.Proofs.Registry.Resolver

/-!
# The guards of the registry

What the history of a DID has to be like for an operation that changes the DID, said without the checks
that refuse it: the operation follows the latest transaction, and where it replaces the document it
does not take the DID away from the controller who signs.

## Results

* `Registry.checkChained_eq_ok_iff` — **the checks let an operation pass exactly when the history
  admits it**.
* `Registry.recalls_publishGuarded` — guarded publishing recalls what it submits.
* `Registry.publishGuarded_guarded` — **an operation that changes a DID is submitted only after the
  resolver has given a history that admits it**; without one the run fails, nothing is submitted, and
  the hash that is kept stays as it is.
* `Registry.exists_submission` — with a history that admits it, an operation that can be sent is submitted.
-/

set_option autoImplicit false

namespace DidRegistry

/-! ## Histories that admit an operation -/

/-- An operation leaves the DID to the controller who signs it: `current` is the document that the
latest transaction with a document carries and `signer` names the key that signed, and either the DID
of that key does not control the document, or the operation carries a document that it controls. -/
inductive Biography.SignerStays [Platform] (b : Biography) (op : Operation Json) : Prop where
  | intro {r : Entry} {current : DidDocument} {signer : DidUrl}
      (latest : b.IsLatestDocument r)
      (document : DidDocument.ofPayload (Payload.bytes r.operation.payload) (b.status = .ended) =
        .ok current)
      (signed : DidUrl.parse op.method (some current.subject) = .ok signer)
      (stays : signer.did ∉ current.controllers ∨
        ∃ updated, DidDocument.ofPayload (Payload.bytesOf op.payload) false = .ok updated ∧
          signer.did ∈ updated.controllers)

/-- A history admits an operation that changes its subject. -/
structure Biography.Admits [Platform] (b : Biography) (kind : String) (op : Operation Json) : Prop where
  /-- The operation follows the latest transaction. -/
  follows : ∃ latest, b.entries.getLast? = some latest ∧ op.previous = some (.str latest.txid)
  /-- An update or a transfer leaves the DID to the controller who signs it. -/
  signer : kind = "update" ∨ kind = "transfer" → b.SignerStays op

namespace Registry

theorem signerOf_eq_ok_iff {current : DidDocument} {op : Operation Json} {did : Did} :
    signerOf current op = .ok did ↔
      ∃ url, DidUrl.parse op.method (some current.subject) = .ok url ∧ url.did = did := by
  unfold signerOf
  cases DidUrl.parse op.method (some current.subject) <;> simp

theorem checkSigner_eq_ok_iff [Platform] {b : Biography} (hs : b.status ≠ .notFound) {kind : String}
    {op : Operation Json} : checkSigner b kind op = .ok () ↔ b.SignerStays op := by
  constructor
  · intro h
    unfold checkSigner at h
    split at h
    · cases h
    · rename_i hd
      exact absurd hd (Biography.document_ne_none hs)
    · rename_i current hd
      obtain ⟨r, hr, hp⟩ := (Biography.document_eq_some_iff hs).mp hd
      split at h
      · cases h
      · rename_i signer hsigner
        obtain ⟨url, hu, rfl⟩ := signerOf_eq_ok_iff.mp hsigner
        refine .intro hr hp hu ?_
        by_cases hm : url.did ∈ current.controllers
        · right
          have hh : current.hasController url.did = true := by
            simpa [DidDocument.hasController] using hm
          simp only [hh, Bool.not_true, Bool.false_eq_true, if_false] at h
          split at h
          · cases h
          · rename_i updated hup
            split at h
            · rename_i hk
              exact ⟨updated, hup, by simpa [DidDocument.hasController] using hk⟩
            · cases h
        · exact .inl hm
  · rintro ⟨hr, hp, hu, hstay⟩
    unfold checkSigner
    rw [(Biography.document_eq_some_iff hs).mpr ⟨_, hr, hp⟩]
    simp only [signerOf_eq_ok_iff.mpr ⟨_, hu, rfl⟩]
    rcases hstay with hm | ⟨updated, hup, hk⟩
    · simp [DidDocument.hasController, hm]
    · simp [DidDocument.hasController, hup, hk]

/-- **The checks let an operation pass exactly when the history admits it.** -/
theorem checkChained_eq_ok_iff [Platform] {b : Biography} (hc : b.check = .ok ()) (subject : Text)
    {kind : String}
    {op : Operation Json} : checkChained subject kind op b = .ok () ↔ b.Admits kind op := by
  have hk : replacingKinds.contains kind = true ↔ kind = "update" ∨ kind = "transfer" := by
    simp [replacingKinds]
  unfold checkChained Biography.latest?
  cases hl : b.entries.getLast? with
  | none =>
    refine ⟨fun h => (by cases h), fun h => ?_⟩
    obtain ⟨latest, he, -⟩ := h.follows
    rw [hl] at he
    cases he
  | some latest =>
    have hs := Biography.status_ne_notFound hc hl
    by_cases hp : op.previous = some (.str latest.txid)
    · simp only [hp, ne_eq, not_true_eq_false, if_false]
      by_cases hr : replacingKinds.contains kind = true
      · rw [if_pos hr, checkSigner_eq_ok_iff hs]
        exact ⟨fun h => ⟨⟨latest, hl, hp⟩, fun _ => h⟩, fun h => h.signer (hk.mp hr)⟩
      · rw [if_neg hr]
        exact ⟨fun _ => ⟨⟨latest, hl, hp⟩, fun h => absurd (hk.mpr h) hr⟩, fun _ => rfl⟩
    · simp only [ne_eq, hp, not_false_eq_true, if_true]
      refine ⟨fun h => (by cases h), fun h => ?_⟩
      obtain ⟨other, he, hf⟩ := h.follows
      rw [hl] at he
      cases he
      exact absurd hf hp

/-! ## Courses -/

open Dialogue

variable {r : Registry} {m m' : Memory} {hs : List Happening}

section

variable {P : Ask → Prop} {subject : Json} {op : Operation Json} {memo : Json}

theorem asks_guard [Platform] (hP : Resolver.Allows P) : (r.guard subject op).Asks P := by
  unfold guard
  split
  · exact .done _
  · exact .done _
  · refine (Resolver.asks_biographyOfDid hP subject (.bool true)).bind fun b => ?_
    split <;> exact .done _

theorem asks_publish [Platform] (h : ∀ payload, (r.publisher.publish payload memo).Asks P) :
    (r.publish op memo).Asks P := by
  unfold publish
  split
  · exact .done _
  · exact (h _).bind fun _ => .done _

end

theorem inquires_guard [Platform] (subject : Json) (op : Operation Json) : (r.guard subject op).Inquires :=
  asks_guard Resolver.allows_inquiry

/-- Publishing an operation: what has no canonical form is refused, anything else is a payload. -/
theorem recalls_publish [Platform] (hl : r.publisher.ledger.IsClient) (op : Operation Json) (memo : Json) :
    (r.publish op memo).Recalls := by
  unfold publish
  split
  · exact .done _
  · exact (Publisher.recalls_publish hl _ memo).bind fun _ => .done _

/-- Guarded publishing once it is known whether an earlier write is still settling. -/
def goOn [Platform] (r : Registry) (subject : Json) (op : Operation Json) (memo : Json) :
    Except StandingError Bool → Dialogue (Except RegistryError Publication)
  | .error e => .done (.error (.standing e))
  | .ok false => .ask .lastHash fun last => .done (.error (.busy last))
  | .ok true => (r.guard subject op).bind fun
    | .error e => .done (.error e)
    | .ok _ => r.publish op memo

/-- Past the gate a guarded write is checked and published; at a shut one the hash is recalled for the
report. -/
theorem asks_goOn [Platform] {P : Ask → Prop} {subject : Json} {op : Operation Json} {memo : Json}
    (hlast : P .lastHash)
    (hguard : (r.guard subject op).Asks P) (hpublish : (r.publish op memo).Asks P)
    (a : Except StandingError Bool) : (r.goOn subject op memo a).Asks P := by
  rcases a with e | _ | _
  · exact .done _
  · exact .ask hlast fun _ => .done _
  · refine hguard.bind fun g => ?_
    cases g with
    | error e => exact .done _
    | ok u => exact hpublish

theorem publishGuarded_eq [Platform] (subject : Json) (op : Operation Json) (memo : Json) :
    r.publishGuarded subject op memo = r.publisher.isFree.bind (r.goOn subject op memo) := by
  refine congrArg (Dialogue.bind _) (funext fun a => ?_)
  rcases a with e | _ | _
  · rfl
  · rfl
  · refine congrArg (Dialogue.bind _) (funext fun g => ?_)
    cases g <;> rfl

/-- **Guarded publishing recalls what it submits.** -/
theorem recalls_publishGuarded [Platform] (hl : r.publisher.ledger.IsClient) (subject : Json)
    (op : Operation Json)
    (memo : Json) : (r.publishGuarded subject op memo).Recalls := by
  rw [publishGuarded_eq]
  refine (Recalls.of_quiet (Publisher.inquires_isFree hl).quiet).bind fun a => ?_
  rcases a with e | _ | _
  · exact .done _
  · exact .of_quiet (.ask rfl fun _ => .done _)
  · refine (Recalls.of_quiet (inquires_guard subject op).quiet).bind fun g => ?_
    cases g with
    | error e => exact .done _
    | ok u => exact recalls_publish hl op memo

theorem chainedKind?_eq {op : Operation Json} {kind : String}
    (hspec : op.specification = .str (Text.ofString Variety.did.specification))
    (hkind : op.kind = .str (Text.ofString kind))
    (hc : kind = "update" ∨ kind = "transfer" ∨ kind = "deactivate") :
    chainedKind? op = .ok (some kind) := by
  unfold chainedKind?
  rw [if_pos hspec, hkind]
  rcases hc with rfl | rfl | rfl <;> rfl

/-- The courses of the guard of an operation that changes a DID: it ends well only when the one question
that it asks is answered with a history that admits the operation. -/
theorem course_guard [Platform] {subject : Json} {op : Operation Json} {kind : String}
    (hk : chainedKind? op = .ok (some kind)) {u : Unit}
    (h : (r.guard subject op).Course m hs (.finished (.ok u)) m') :
    ∃ did response b, Resolver.didOf subject = .ok did ∧
      hs = [.answered (r.resolver.didQuestion did) response] ∧
      Resolver.read .did did response = .ok b ∧ b.Admits kind op := by
  unfold guard at h
  rw [hk] at h
  rcases course_bind h with ⟨a, hs₁, hs₂, m₁, rfl, h₁, h₂⟩ | ⟨-, he⟩
  · cases a with
    | error e =>
      obtain ⟨-, he, -⟩ := course_done h₂
      cases he
    | ok b =>
      obtain ⟨rfl, he, -⟩ := course_done h₂
      have hb : checkChained subject.text kind op b = .ok u := (Ending.finished.inj he).symm
      rcases Resolver.course_biographyOfDid h₁ with ⟨_, _, _, he⟩ | ⟨did, hd, ⟨response, rfl, he⟩ | ⟨_, he⟩⟩
      · cases he
      · have hr : Resolver.read .did did response = .ok b := (Ending.finished.inj he).symm
        obtain ⟨-, hc, -⟩ := Resolver.read_eq_ok hr
        exact ⟨did, response, b, hd, rfl, hr, (checkChained_eq_ok_iff hc _).mp hb⟩
      · cases he
  · cases he

/-! ## What is submitted, and what is not -/

/-- The resolver has given a history that admits an operation: before anything was submitted it was
asked about the DID that the subject names, and its answer was read as a well formed biography of exactly
that DID. -/
inductive Backed [Platform] (r : Registry) (subject : Json) (kind : String) (op : Operation Json) :
    List Happening → Prop where
  | intro {before after : List Happening} {did : Text}
      {response : (r.resolver.didQuestion did).Reply} {b : Biography}
      (first : ∀ x ∈ before, x.isSubmission = false)
      (named : Resolver.didOf subject = .ok did)
      (answer : Resolver.read .did did response = .ok b)
      (variety : b.variety = .did) (sane : b.check = .ok ()) (about : b.subject = .str did)
      (admits : b.Admits kind op) :
      Backed r subject kind op (before ++ .answered (r.resolver.didQuestion did) response :: after)

/-- A run that came to nothing: nothing was submitted, the kept hash is the one from before, and the run
ended in an error unless it was cancelled while it waited for a reply. -/
structure CameToNothing (hs : List Happening) (e : Ending (Except RegistryError Publication))
    (before after : Option Json) : Prop where
  unsent : ∀ x ∈ hs, x.isSubmission = false
  kept : after = before
  failed : (∃ error, e = .finished (.error error)) ∨
    (e = .cancelled ∧ ∃ earlier c, hs = earlier ++ [.abandoned c])

theorem cameToNothing_of_inquires {α : Type} {d : Dialogue α} (hd : d.Inquires) {a : α}
    (h : d.Course m hs (.finished a) m') (error : RegistryError) :
    CameToNothing hs (.finished (.error error)) m.last m'.last := by
  obtain ⟨hn, hm⟩ := hd.quiet.course h
  exact ⟨hn, hm, .inl ⟨error, rfl⟩⟩

theorem cameToNothing_of_abandoned {α : Type} {d : Dialogue α} (hd : d.Inquires)
    (h : d.Course m hs .cancelled m') : CameToNothing hs .cancelled m.last m'.last := by
  obtain ⟨hn, hm⟩ := hd.quiet.course h
  exact ⟨hn, hm, .inr ⟨rfl, hd.abandoned h⟩⟩

theorem CameToNothing.append {hs gs : List Happening} {e : Ending (Except RegistryError Publication)}
    {x y z : Option Json} (hq : ∀ a ∈ hs, a.isSubmission = false) (hy : y = x)
    (h : CameToNothing gs e y z) : CameToNothing (hs ++ gs) e x z := by
  refine ⟨fun a ha => ?_, h.kept.trans hy, ?_⟩
  · rcases List.mem_append.mp ha with ha | ha
    · exact hq a ha
    · exact h.unsent a ha
  · rcases h.failed with he | ⟨he, earlier, c, rfl⟩
    · exact .inl he
    · exact .inr ⟨he, hs ++ earlier, c, (List.append_assoc ..).symm⟩

/-- A course of guarded publishing of an operation that changes a DID is backed, or comes to nothing. -/
theorem course_publishGuarded [Platform] (hl : r.publisher.ledger.IsClient) {subject : Json}
    {op : Operation Json}
    {memo : Json} {kind : String} (hk : chainedKind? op = .ok (some kind))
    {e : Ending (Except RegistryError Publication)}
    (h : (r.publishGuarded subject op memo).Course m hs e m') :
    r.Backed subject kind op hs ∨ CameToNothing hs e m.last m'.last := by
  rw [publishGuarded_eq] at h
  have hi := Publisher.inquires_isFree hl
  rcases course_bind h with ⟨a, hs₁, hs₂, m₁, rfl, h₁, h₂⟩ | ⟨h₁, rfl⟩
  · obtain ⟨hq, hm⟩ := hi.quiet.course h₁
    rcases a with x | _ | _
    · obtain ⟨rfl, rfl, rfl⟩ := course_done h₂
      rw [List.append_nil]
      exact .inr (cameToNothing_of_inquires hi h₁ _)
    · have hb := course_lastHash h₂
      obtain ⟨rfl, rfl, rfl⟩ := course_done hb
      rw [List.append_nil]
      exact .inr (cameToNothing_of_inquires hi h₁ _)
    · rcases course_bind h₂ with ⟨g, hs₃, hs₄, m₂, rfl, h₃, h₄⟩ | ⟨h₃, rfl⟩
      · cases g with
        | error x =>
          obtain ⟨rfl, rfl, rfl⟩ := course_done h₄
          rw [List.append_nil]
          exact .inr (.append hq hm (cameToNothing_of_inquires (inquires_guard subject op) h₃ _))
        | ok u =>
          obtain ⟨did, response, b, hd, rfl, hr, ha⟩ := course_guard hk h₃
          obtain ⟨hv, hc, hs⟩ := Resolver.read_eq_ok hr
          exact .inl (.intro hq hd hr hv hc hs ha)
      · exact .inr (.append hq hm (cameToNothing_of_abandoned (inquires_guard subject op) h₃))
  · exact .inr (cameToNothing_of_abandoned hi h₁)

/-- **An operation that changes a DID is submitted only after the resolver has given a history that
admits it.**  Without one the run comes to nothing, whatever the ledger and the resolver reply and
whatever was kept before. -/
theorem publishGuarded_guarded [Platform] {r : Registry} (hl : r.publisher.ledger.IsClient)
    {op : Operation Json}
    {kind : String} (hspec : op.specification = .str (Text.ofString Variety.did.specification))
    (hkind : op.kind = .str (Text.ofString kind))
    (hc : kind = "update" ∨ kind = "transfer" ∨ kind = "deactivate") (subject memo : Json)
    (w : Surroundings) (start : Progress) :
    ((∃ x ∈ (r.publishGuarded subject op memo).transcript w start, x.isSubmission = true) →
        r.Backed subject kind op ((r.publishGuarded subject op memo).transcript w start)) ∧
      (¬ r.Backed subject kind op ((r.publishGuarded subject op memo).transcript w start) →
        CameToNothing ((r.publishGuarded subject op memo).transcript w start)
          ((r.publishGuarded subject op memo).run w start).1 start.memory.last
          ((r.publishGuarded subject op memo).run w start).2.memory.last) := by
  have h := run_course w (r.publishGuarded subject op memo) start
  have hb := course_publishGuarded hl (chainedKind?_eq hspec hkind hc) h
  refine ⟨?_, fun hn => hb.resolve_left hn⟩
  rintro ⟨x, hx, hsub⟩
  rcases hb with hb | hn
  · exact hb
  · rw [hn.unsent x hx] at hsub
    cases hsub

/-- **A guarded write of texts is submitted when nothing speaks against it**: nothing is still settling,
and the guard lets it pass. -/
theorem exists_submission [Platform] {r : Registry} (hl : r.publisher.ledger.IsClient)
    (hsender : (Address.ofJson? (.str r.publisher.account.toText)).isSome)
    (hcontract : (Address.ofJson? r.publisher.settings.contract).isSome)
    (hprice : ∀ n : Int, r.publisher.settings.fees.price = .int n → 0 ≤ n)
    (hlimit : ∀ n : Int, r.publisher.settings.fees.limit = .int n → 0 ≤ n) {subject memo : Json}
    {op : Operation String} {w : Surroundings} {start : Progress}
    (hfree : (r.publisher.isFree.run w start).1 = .finished (.ok true))
    (hguard : ((r.guard subject op.values).run w (r.publisher.isFree.run w start).2).1 = .finished (.ok ())) :
    ∃ x ∈ (r.publishGuarded subject op.values memo).transcript w start, x.isSubmission = true := by
  obtain ⟨hwire, data, hdata⟩ := Operation.wireBytes_eq op
  obtain ⟨hpayload, hutf8⟩ := CallData.encode_isOk_iff.mp ⟨data, hdata⟩
  obtain ⟨x, hx, hsub⟩ := Publisher.exists_submission hl ⟨hpayload, hutf8, hsender, hcontract⟩ hprice hlimit
    memo w ((r.guard subject op.values).run w (r.publisher.isFree.run w start).2).2
  have hpublish : r.publish op.values memo =
      (r.publisher.publish (Text.Utf8.encode op.values.toJson.render) memo).bind
        fun a => .done (a.mapError .publish) := by
    unfold publish
    rw [hwire]
    rfl
  refine ⟨x, ?_, hsub⟩
  rw [publishGuarded_eq]
  refine mem_transcript_bind hfree (mem_transcript_bind hguard ?_)
  rw [hpublish, transcript_bind]
  exact List.mem_append_left _ hx

/-- A registry with a publisher of its own and a resolver. -/
def sample : Registry := ⟨Publisher.sample, ⟨"http://localhost:8080"⟩⟩

/-- An operation that creates a DID, and follows no transaction. -/
def founding : Operation String where
  specification := Variety.did.specification
  kind := "create"
  previous := none
  payload := "e30"
  method := "#primary"
  signature := "c2ln"
  proofType := "ECDSAsecp256r1"

/-- A response with the history of a DID that one transaction has created. -/
def createdAnswer : Json :=
  .obj [("result", .obj [("did", .str "did:elastos:abc"), ("status", .int 0),
    ("transaction", .arr [.obj [
      ("txid", .str "1111111111111111111111111111111111111111111111111111111111111111"),
      ("timestamp", .str "2024-03-01T10:00:00Z"),
      ("operation", .obj [
        ("header", .obj [("specification", .str "elastos/did/1.0"), ("operation", .str "create")]),
        ("payload", .str "eyJpZCI6ImRpZDplbGFzdG9zOmFiYyJ9"),
        ("proof", .obj [("verificationMethod", .str "#primary"), ("signature", .str "c2ln")])])]])])]

/-- An update of that DID, which follows that transaction. -/
def renewal : Operation String where
  specification := Variety.did.specification
  kind := "update"
  previous := some "1111111111111111111111111111111111111111111111111111111111111111"
  payload := "eyJpZCI6ImRpZDplbGFzdG9zOmFiYyJ9"
  method := "#primary"
  signature := "c2ln"
  proofType := "ECDSAsecp256r1"

/-- Surroundings in which the resolver gives that history, and a submission is accepted. -/
def resolving : Surroundings where
  respond
    | _, .post _ _ _ => .ok createdAnswer
    | number, c => Publisher.unmined.respond number c

theorem not_backed_renewal [Platform] : ¬ sample.Backed (.str "did:elastos:abc") "update" renewal.values
    [.answered (sample.resolver.didQuestion "did:elastos:abc") (.error .shapeless)] := by
  generalize hE : [Happening.answered (sample.resolver.didQuestion "did:elastos:abc")
    (.error .shapeless)] = hs
  rintro ⟨-, -, answer, -, -, -, -⟩
  rename_i before after did response b
  cases before with
  | nil =>
    cases hE
    cases answer
  | cons x xs => simp at hE

section

attribute [local instance] Platform.usual

/-- The update comes to nothing where the resolver cannot be reached, and is submitted where the resolver
gives the history that it follows. -/
theorem publishGuarded_guarded_renewal :
    sample.publisher.ledger.IsClient ∧
      renewal.values.specification = .str (Text.ofString Variety.did.specification) ∧
      renewal.values.kind = .str (Text.ofString "update") ∧
      CameToNothing [.answered (sample.resolver.didQuestion "did:elastos:abc") (.error .shapeless)]
        ((sample.publishGuarded (.str "did:elastos:abc") renewal.values .null).run Publisher.unmined
          ⟨.fresh, 0, 0, []⟩).1
        none
        ((sample.publishGuarded (.str "did:elastos:abc") renewal.values .null).run Publisher.unmined
          ⟨.fresh, 0, 0, []⟩).2.memory.last ∧
      (∃ x ∈ (sample.publishGuarded (.str "did:elastos:abc") renewal.values .null).transcript resolving
        ⟨.fresh, 0, 0, []⟩, x.isSubmission = true) ∧
      sample.Backed (.str "did:elastos:abc") "update" renewal.values
        ((sample.publishGuarded (.str "did:elastos:abc") renewal.values .null).transcript resolving
          ⟨.fresh, 0, 0, []⟩) := by
  have hguard : ((sample.guard (.str "did:elastos:abc") renewal.values).run resolving
      (sample.publisher.isFree.run resolving ⟨.fresh, 0, 0, []⟩).2).1 = .finished (.ok ()) :=
    Ending.value?_eq_some.mp (by decide +kernel)
  have hsender : (Address.ofJson? (.str sample.publisher.account.toText)).isSome :=
    Address.isSome_ofJson?_usual Publisher.isValid_ones
  have hsubmitted : ∃ x ∈ (sample.publishGuarded (.str "did:elastos:abc") renewal.values .null).transcript
      resolving ⟨.fresh, 0, 0, []⟩, x.isSubmission = true :=
    exists_submission .direct hsender (by decide +kernel) (by simp [sample, Publisher.sample])
      (by simp [sample, Publisher.sample]) rfl hguard
  refine ⟨.direct, rfl, rfl, ?refused, hsubmitted, ?admitted⟩
  case refused =>
    exact (publishGuarded_guarded .direct rfl rfl (.inl rfl) (.str "did:elastos:abc") .null
      Publisher.unmined ⟨.fresh, 0, 0, []⟩).2 not_backed_renewal
  case admitted =>
    exact (publishGuarded_guarded .direct rfl rfl (.inl rfl) (.str "did:elastos:abc") .null
      resolving ⟨.fresh, 0, 0, []⟩).1 hsubmitted

end

end Registry

end DidRegistry
