import DidRegistry.Proofs.Ledger.Submission
import DidRegistry.Proofs.Number

/-!
# What a node's responses come to

A client asks a node four kinds of questions: it sends a transaction, and it asks for a receipt, for a
transaction and for the highest block.  Whatever object the node responds with is documented to become an
answer: a value, an error, or neither, when there is nothing yet.  Two responses do not.  An error object
whose code is not a whole number cannot be read at all, and the result of a query for a transaction is asked
for its members even if it is no object.

## Results

* `Rpc.read_isOk_iff` — which responses can be taken apart.
* `Ledger.reads_hash`, `Ledger.reads_receipt`, `Ledger.reads_transaction`, `Ledger.reads_height` — what each
  of the four readers makes of a result.
* `Ledger.query_ends_iff` — when a question ends as documented, for every reader.
* `Ledger.ofNode_ends_iff` — **each of the four questions ends as documented exactly when the response has no
  unreadable error code and, for a transaction, no result other than null or an object**.
-/

set_option autoImplicit false

namespace DidRegistry

/-! ## Members -/

namespace Json.Members

theorem get?_cons (key other : Text) (x : Json) (ms : Members) :
    get? ((key, x) :: ms) other = if other = key then some x else get? ms other := by
  simp only [get?, List.lookup_cons]
  by_cases h : other = key
  · rw [if_pos h, beq_iff_eq.mpr h]
  · rw [if_neg h, beq_eq_false_iff_ne.mpr h]

theorem get?_put (key other : Text) (x : Json) (ms : Members) :
    get? (put key x ms) other =
      if other = key then some x else get? ms other := by
  induction ms with
  | nil => exact get?_cons key other x []
  | cons m rest ih =>
    obtain ⟨k, v⟩ := m
    rw [put]
    by_cases hk : k = key
    · subst hk
      rw [if_pos rfl, get?_cons, get?_cons]
      by_cases h : other = k <;> simp [h]
    · rw [if_neg hk, get?_cons, get?_cons, ih]
      by_cases h : other = k
      · subst h
        simp [hk]
      · simp [h]

end Json.Members

/-! ## Errors in responses -/

namespace Rpc

/-- The code of the error in a response is, or gives, a whole number, where the error is an object that has
one. -/
def HasWholeCode (ms : Json.Members) : Prop :=
  ∀ fields, ms.get? "error" = some (.obj fields) →
    ∃ n, ((Json.Members.get? fields "code").getD (.int NodeError.internalCode)).toWhole = .ok n

theorem errorOf_isOk_iff {fields : Json.Members} :
    (∃ e, errorOf fields = .ok e) ↔
      ∃ n, ((Json.Members.get? fields "code").getD (.int NodeError.internalCode)).toWhole = .ok n := by
  unfold errorOf
  cases ((Json.Members.get? fields "code").getD (.int NodeError.internalCode)).toWhole <;> simp

theorem read_isOk_iff {ms : Json.Members} : (∃ r, read (.obj ms) = .ok r) ↔ HasWholeCode ms := by
  unfold HasWholeCode
  simp only [read, Json.get?]
  cases he : Json.Members.get? ms "error" with
  | none =>
    simp only [Option.getD_none, reduceCtorEq, false_implies, implies_true, iff_true]
    cases Json.Members.get? ms "result" <;> exact ⟨_, rfl⟩
  | some x =>
    cases x with
    | null =>
      simp only [Option.getD_some, Option.some.injEq, reduceCtorEq, false_implies, implies_true, iff_true]
      cases Json.Members.get? ms "result" <;> exact ⟨_, rfl⟩
    | obj fields =>
      simp only [Option.getD_some, map_eq_ok, Option.some.injEq, Json.obj.injEq, forall_eq']
      rw [← errorOf_isOk_iff]
      constructor
      · rintro ⟨r, e, h, -⟩
        exact ⟨e, h⟩
      · rintro ⟨e, h⟩
        exact ⟨_, e, h, rfl⟩
    | _ => simp

theorem read_error {ms : Json.Members} {e : NodeError} (h : read (.obj ms) = .ok (.error e)) :
    ∃ n t, e = ⟨.int n, .str t⟩ := by
  simp only [read] at h
  split at h
  · split at h
    · cases h
    · cases h
      exact ⟨_, _, rfl⟩
  · obtain ⟨e', h', he⟩ := map_eq_ok.mp h
    cases he
    unfold errorOf at h'
    split at h'
    · cases h'
    · cases h'
      exact ⟨_, _, rfl⟩
  · cases h
    exact ⟨_, _, rfl⟩

end Rpc

namespace Ledger

open Dialogue

variable {α : Type} {read : Json → Attempt α} {Usable Absent : Json → Prop}

/-! ## Answers -/

/-- What a response with these members comes to, when results that are `Usable` give a value and those that
are `Absent` say that there is nothing yet: at most one of a value and an error, the error exactly when there
is no result of either kind. -/
structure Answers (Usable Absent : Json → Prop) (ms : Json.Members) (a : Answer α) : Prop where
  single : a.value = none ∨ a.error = none
  found : a.value.isSome ↔ ∃ v, Rpc.resultOf? (.ok (.obj ms)) = some v ∧ Usable v
  nothing : a.value = none ∧ a.error = none ↔ ∃ v, Rpc.resultOf? (.ok (.obj ms)) = some v ∧ Absent v
  failed : a.error.isSome ↔ ∀ v, Rpc.resultOf? (.ok (.obj ms)) = some v → ¬Usable v ∧ ¬Absent v
  /-- An error has a whole code and a text. -/
  error : ∀ e, a.error = some e → ∃ n t, e = ⟨.int n, .str t⟩

/-- A reader makes of a result what it is: a value, nothing yet, or an error. -/
structure Reads (read : Json → Attempt α) (Usable Absent : Json → Prop) (v : Json) : Prop where
  usable : Usable v → ∃ a, read v = .ok (.found a)
  absent : Absent v → read v = .ok .nothing
  unusable : ¬Usable v → ¬Absent v → ∃ message, read v = .ok (.failed (.internal message))

theorem Reads.disjoint {v : Json} (h : Reads read Usable Absent v) (hu : Usable v) : ¬Absent v := by
  intro ha
  obtain ⟨a, hfound⟩ := h.usable hu
  rw [h.absent ha] at hfound
  cases hfound

theorem answers_of_reads {ms : Json.Members} {v : Json} (hr : Rpc.resultOf? (.ok (.obj ms)) = some v)
    (h : Reads read Usable Absent v) : ∃ a, read v = .ok a ∧ Answers Usable Absent ms a := by
  have hone : ∀ P : Json → Prop, (∃ x, Rpc.resultOf? (.ok (.obj ms)) = some x ∧ P x) ↔ P v := by
    intro P
    simp [hr]
  have hall : ∀ P : Json → Prop, (∀ x, Rpc.resultOf? (.ok (.obj ms)) = some x → P x) ↔ P v := by
    intro P
    simp [hr]
  by_cases hu : Usable v
  · obtain ⟨a, ha⟩ := h.usable hu
    have hn : ¬Absent v := h.disjoint hu
    refine ⟨_, ha, .inr rfl, ?_, ?_, ?_, fun e he => by cases he⟩
    · simp [hone, hu, Answer.found]
    · simp [hone, hn, Answer.found]
    · simp [hall, hu, Answer.found]
  · by_cases ha : Absent v
    · refine ⟨_, h.absent ha, .inr rfl, ?_, ?_, ?_, fun e he => by cases he⟩
      · simp [hone, hu, Answer.nothing]
      · simp [hone, ha, Answer.nothing]
      · simp [hall, ha, Answer.nothing]
    · obtain ⟨message, hf⟩ := h.unusable hu ha
      refine ⟨_, hf, .inl rfl, ?_, ?_, ?_, fun e he => ?_⟩
      · simp [hone, hu, Answer.failed]
      · simp [hone, ha, Answer.failed]
      · simp [hall, hu, ha, Answer.failed]
      · cases he
        exact ⟨_, message, rfl⟩

theorem answers_failed {ms : Json.Members} (hr : Rpc.resultOf? (.ok (.obj ms)) = none) (n : Int) (t : Text) :
    Answers Usable Absent ms (.failed ⟨.int n, .str t⟩ : Answer α) := by
  refine ⟨.inl rfl, ?_, ?_, ?_, fun e he => ?_⟩
  · simp [hr, Answer.failed]
  · simp [hr, Answer.failed]
  · simp [hr, Answer.failed]
  · cases he
    exact ⟨n, t, rfl⟩

/-- **A response that can be taken apart makes an answer**, if its result, where there is one, is read as
what it is. -/
theorem answers_attemptOf {ms : Json.Members} (hms : Rpc.HasWholeCode ms)
    (hread : ∀ v, Rpc.resultOf? (.ok (.obj ms)) = some v → Reads read Usable Absent v) :
    ∃ a, attemptOf read (.ok (.obj ms)) = .ok a ∧ Answers Usable Absent ms a := by
  cases hr : Rpc.resultOf? (.ok (.obj ms)) with
  | some v =>
    rw [attemptOf_of_result hr]
    exact answers_of_reads hr (hread v hr)
  | none =>
    obtain ⟨r, hparts⟩ := Rpc.read_isOk_iff.mpr hms
    cases r with
    | ok v =>
      rw [(Rpc.read_obj ms v).mp hparts] at hr
      cases hr
    | error e =>
      obtain ⟨n, t, rfl⟩ := Rpc.read_error hparts
      have hresponse : readResponse (.ok (.obj ms)) = .ok (.error ⟨.int n, .str t⟩) :=
        mapError_eq_ok.mpr hparts
      refine ⟨_, ?_, answers_failed hr n t⟩
      unfold attemptOf
      rw [hresponse]

theorem attemptOf_of_not_whole (read : Json → Attempt α) {ms : Json.Members} (hms : ¬Rpc.HasWholeCode ms) :
    ∃ b, attemptOf read (.ok (.obj ms)) = .error b := by
  cases hparts : Rpc.read (.obj ms) with
  | ok r => exact absurd (Rpc.read_isOk_iff.mp ⟨r, hparts⟩) hms
  | error e =>
    refine ⟨.response e, ?_⟩
    have hresponse : readResponse (.ok (.obj ms)) = .error (.response e) := by
      unfold readResponse
      dsimp only
      rw [hparts]
      rfl
    unfold attemptOf
    rw [hresponse]

/-! ## Results -/

/-- The result of a submission that is the hash of the transaction: a text that is not empty. -/
def IsHash (v : Json) : Prop := ∃ t : Text, v = .str t ∧ t.points ≠ []

/-- A member is a quantity, or null, or is not there. -/
def HasQuantity (v : Json) (key : Text) : Prop := ∃ n, Quantity.read ((v.get? key).getD .null) = .ok n

/-- A member is there and gives a number. -/
def HasNumber (v : Json) (key : Text) : Prop := ∃ n, Quantity.read ((v.get? key).getD .null) = .ok (some n)

/-- The result of a query for a receipt that is one: an object with the number of the block, in which status
and gas are quantities where they are given. -/
def IsReceipt (v : Json) : Prop :=
  (∃ ms, v = .obj ms) ∧ HasNumber v "blockNumber" ∧ HasQuantity v "status" ∧ HasQuantity v "gasUsed"

/-- The result of a query for a transaction that is one: an object in which the number of the block is a
quantity where it is given. -/
def IsTransaction (v : Json) : Prop := (∃ ms, v = .obj ms) ∧ HasQuantity v "blockNumber"

/-- The result of a query for the highest block that is its number. -/
def IsHeight (v : Json) : Prop := ∃ n, Quantity.read v = .ok (some n)

/-- No result says that there is nothing yet. -/
def Never (_ : Json) : Prop := False

/-- Null says that there is nothing yet. -/
def IsNull (v : Json) : Prop := v = .null

theorem isHash_iff {v : Json} : (v.isString && v.isPresent) = true ↔ IsHash v := by
  unfold IsHash
  cases v with
  | str t => simp [Json.isString, Json.isPresent, Text.isEmpty]
  | _ => simp [Json.isString]

theorem reads_hash (v : Json) : Reads (fun v => .ok (hashAnswer v)) IsHash Never v where
  usable h := by
    rw [← isHash_iff] at h
    exact ⟨v, by simp only [hashAnswer, h, if_true]⟩
  absent h := h.elim
  unusable h _ := by
    rw [← isHash_iff] at h
    exact ⟨_, congrArg Except.ok (if_neg h)⟩

theorem reads_height (v : Json) : Reads (fun v => .ok (heightAnswer v)) IsHeight Never v where
  usable := by
    rintro ⟨n, hn⟩
    exact ⟨.ofNumber n, by simp only [heightAnswer, hn]⟩
  absent h := h.elim
  unusable h _ := by
    unfold heightAnswer
    cases hv : Quantity.read v with
    | error e => exact ⟨_, rfl⟩
    | ok n =>
      cases n with
      | none => exact ⟨_, rfl⟩
      | some n => exact absurd ⟨n, hv⟩ h

theorem quantityIn_eq_ok_iff {v : Json} {key : String} :
    (∃ x, quantityIn v key = .ok x) ↔ HasQuantity v key := by
  simp only [quantityIn, map_eq_ok, HasQuantity]
  constructor
  · rintro ⟨x, n, h, -⟩
    exact ⟨n, h⟩
  · rintro ⟨n, h⟩
    exact ⟨_, n, h, rfl⟩

theorem ofNumber?_ne_null_iff {n : Option Number} : Json.ofNumber? n ≠ .null ↔ n.isSome := by
  cases n with
  | none => simp [Json.ofNumber?]
  | some n => cases n <;> simp [Json.ofNumber?, Json.ofNumber]

theorem numberIn_eq_ok_iff {v : Json} {key : String} :
    (∃ x, quantityIn v key = .ok x ∧ x ≠ .null) ↔ HasNumber v key := by
  simp only [quantityIn, map_eq_ok, HasNumber]
  constructor
  · rintro ⟨x, ⟨n, h, rfl⟩, hx⟩
    obtain ⟨n, rfl⟩ := Option.isSome_iff_exists.mp (ofNumber?_ne_null_iff.mp hx)
    exact ⟨n, h⟩
  · rintro ⟨n, h⟩
    exact ⟨_, ⟨_, h, rfl⟩, ofNumber?_ne_null_iff.mpr rfl⟩

theorem HasNumber.isNone {v : Json} {key : Text} (h : HasNumber v key) : (v.get? key).isNone = false := by
  obtain ⟨n, hn⟩ := h
  cases hv : v.get? key with
  | some x => rfl
  | none =>
    rw [hv] at hn
    cases hn

theorem receiptOf_isOk_iff (hash : Json) {v : Json} : (∃ r, receiptOf hash v = .ok r) ↔ IsReceipt v := by
  cases v with
  | obj ms =>
    constructor
    · rintro ⟨r, hr⟩
      simp only [receiptOf] at hr
      split at hr
      · cases hr
      obtain ⟨block, hblock, hr⟩ := bind_eq_ok.mp hr
      split at hr
      · cases hr
      rename_i hpresent
      obtain ⟨status, hstatus, hr⟩ := bind_eq_ok.mp hr
      obtain ⟨gasUsed, hgas, hr⟩ := bind_eq_ok.mp hr
      refine ⟨⟨ms, rfl⟩, ?_, ?_, ?_⟩
      · exact numberIn_eq_ok_iff.mp ⟨block, mapError_eq_ok.mp hblock, hpresent⟩
      · exact quantityIn_eq_ok_iff.mp ⟨_, mapError_eq_ok.mp hstatus⟩
      · exact quantityIn_eq_ok_iff.mp ⟨_, mapError_eq_ok.mp hgas⟩
    · rintro ⟨-, hnumber, hstatus, hgas⟩
      have hthere : ¬((Json.obj ms).get? "blockNumber").isNone = true := by simp [hnumber.isNone]
      obtain ⟨block, hblock, hpresent⟩ := numberIn_eq_ok_iff.mpr hnumber
      obtain ⟨status, hstatus⟩ := quantityIn_eq_ok_iff.mpr hstatus
      obtain ⟨gasUsed, hgas⟩ := quantityIn_eq_ok_iff.mpr hgas
      refine ⟨⟨presentOr ((Json.obj ms).get? "transactionHash") hash, block,
        ((Json.obj ms).get? "blockHash").getD .null, status, gasUsed⟩, ?_⟩
      simp only [receiptOf, if_neg hthere, hblock, hstatus, hgas]
      exact if_neg hpresent
  | _ => simp [receiptOf, IsReceipt]

/-- The result of a query for a receipt is read as a receipt, as null or as an error. -/
theorem reads_receipt (hash v : Json) : Reads (fun v => .ok (receiptAnswer hash v)) IsReceipt IsNull v where
  usable h := by
    obtain ⟨r, hr⟩ := (receiptOf_isOk_iff hash).mpr h
    obtain ⟨⟨ms, rfl⟩, -⟩ := h
    exact ⟨r, by simp only [receiptAnswer, hr]⟩
  absent h := by
    cases h
    rfl
  unusable h hn := by
    unfold receiptAnswer
    split
    · exact absurd rfl hn
    · split
      · rename_i r hr
        exact absurd ((receiptOf_isOk_iff hash).mp ⟨r, hr⟩) h
      · exact ⟨_, rfl⟩

theorem transactionOf_isOk_iff (hash : Json) {v : Json} :
    (∃ t, transactionOf hash v = .ok t) ↔ HasQuantity v "blockNumber" := by
  simp only [transactionOf, map_eq_ok, ← quantityIn_eq_ok_iff]
  constructor
  · rintro ⟨t, block, h, -⟩
    exact ⟨block, h⟩
  · rintro ⟨block, h⟩
    exact ⟨_, block, h, rfl⟩

/-- The result of a query for a transaction, if it is null or an object, is read as a transaction, as null or
as an error. -/
theorem reads_transaction (hash : Json) {v : Json} (hv : v = .null ∨ ∃ ms, v = .obj ms) :
    Reads (transactionAnswer hash) IsTransaction IsNull v where
  usable h := by
    obtain ⟨⟨ms, rfl⟩, hq⟩ := h
    obtain ⟨t, ht⟩ := (transactionOf_isOk_iff hash).mpr hq
    exact ⟨t, by simp only [transactionAnswer, ht]⟩
  absent h := by
    cases h
    rfl
  unusable h hn := by
    rcases hv with rfl | ⟨ms, rfl⟩
    · exact absurd rfl hn
    · simp only [transactionAnswer]
      split
      · rename_i t ht
        exact absurd ⟨⟨ms, rfl⟩, (transactionOf_isOk_iff hash).mp ⟨t, ht⟩⟩ h
      · exact ⟨_, rfl⟩

theorem transactionAnswer_shapeless (hash : Json) {v : Json} (hv : ¬(v = .null ∨ ∃ ms, v = .obj ms)) :
    transactionAnswer hash v = .error .shapeless := by
  cases v with
  | null => exact absurd (.inl rfl) hv
  | obj ms => exact absurd (.inr ⟨ms, rfl⟩) hv
  | _ => rfl

/-! ## Transactions on the wire -/

/-- No whole number under these keys is below zero. -/
def NoneNegative (keys : List String) (ms : Json.Members) : Prop :=
  ∀ key ∈ keys, ∀ n : Int, Json.Members.get? ms key = some (.int n) → 0 ≤ n

/-- A member that is not below zero is made a quantity; no other member becomes a whole number. -/
theorem withQuantity_isOk {key : String} {ms : Json.Members}
    (h : ∀ n : Int, Json.Members.get? ms key = some (.int n) → 0 ≤ n) :
    ∃ wire, withQuantity ms key = .ok wire ∧
      ∀ other (n : Int), Json.Members.get? wire other = some (.int n) →
        Json.Members.get? ms other = some (.int n) := by
  have hput : ∀ q : String, ∀ other (n : Int),
      Json.Members.get? (Json.Members.put key (.str q) ms) other = some (.int n) →
        Json.Members.get? ms other = some (.int n) := by
    intro q other n hn
    rw [Json.Members.get?_put] at hn
    split at hn
    · cases hn
    · exact hn
  unfold withQuantity
  cases hm : (Json.Members.get? ms key).bind Json.number? with
  | none => exact ⟨ms, rfl, fun _ _ hn => hn⟩
  | some x =>
    obtain ⟨v, hv, hx⟩ := Option.bind_eq_some_iff.mp hm
    cases x with
    | real x => exact ⟨ms, rfl, fun _ _ hn => hn⟩
    | flag b =>
      have hq : Quantity.ofNumber (.flag b) = .ok (Quantity.ofNat (Number.ofFlag b).toNat) := by
        cases b <;> rfl
      exact ⟨_, map_eq_ok.mpr ⟨_, bind_eq_ok.mpr ⟨_, hq, rfl⟩, rfl⟩, hput _⟩
    | int n =>
      cases v with
      | int k =>
        cases hx
        have hq : Quantity.ofNumber (.int n) = .ok (Quantity.ofNat n.toNat) := by
          simp [Quantity.ofNumber, Number.lt_eq_false_iff.mpr (h n hv), Number.whole?]
        exact ⟨_, map_eq_ok.mpr ⟨_, bind_eq_ok.mpr ⟨_, hq, rfl⟩, rfl⟩, hput _⟩
      | _ => cases hx

/-- **Every member is made a quantity** when none is below zero. -/
theorem foldlM_withQuantity_isOk {keys : List String} {ms : Json.Members} (h : NoneNegative keys ms) :
    ∃ wire, keys.foldlM withQuantity ms = .ok wire := by
  induction keys generalizing ms with
  | nil => exact ⟨ms, rfl⟩
  | cons key rest ih =>
    obtain ⟨next, hnext, hkeep⟩ := withQuantity_isOk (h key List.mem_cons_self)
    have hrest : NoneNegative rest next := by
      intro other hother n hn
      exact h other (List.mem_cons_of_mem _ hother) n (hkeep _ n hn)
    obtain ⟨wire, hwire⟩ := ih hrest
    refine ⟨wire, ?_⟩
    rw [List.foldlM_cons]
    exact bind_eq_ok.mpr ⟨next, hnext, hwire⟩

theorem toMembers_ofJson_obj (ms : Json.Members) :
    ∃ es, Entries.ofJson (.obj ms) = .ok es ∧ es.toMembers = ms := by
  refine ⟨_, rfl, ?_⟩
  simp [Entries.toMembers, Function.comp_def]

theorem wireTransaction_isOk {ms : Json.Members} (h : NoneNegative quantityKeys ms) :
    ∃ wire, wireTransaction (.obj ms) = .ok wire := by
  obtain ⟨es, hes, rfl⟩ := toMembers_ofJson_obj ms
  obtain ⟨wire, hwire⟩ := foldlM_withQuantity_isOk h
  refine ⟨wire, ?_⟩
  unfold wireTransaction
  rw [hes]
  exact mapError_eq_ok.mpr hwire

/-! ## Questions -/

/-- How a question to a node ends as it is documented: a response makes an answer; without a response the
exchange is what failed, as it is reported; and the question may be cancelled while it waits. -/
inductive Ends (url : Text) (method : String) (params : List Json) (Usable Absent : Json → Prop) :
    List Happening → Ending (Attempt α) → Prop where
  | answered {ms : Json.Members} {a : Answer α} :
      Answers Usable Absent ms a →
      Ends url method params Usable Absent [.answered (.post url method params) (.ok (.obj ms))]
        (.finished (.ok a))
  | broken {b : Breakdown} :
      Ends url method params Usable Absent [.answered (.post url method params) (.error b)]
        (.finished (.error b))
  | cancelled : Ends url method params Usable Absent [.abandoned (.post url method params)] .cancelled

/-- Every response is an object, the code of its error is whole, and its result is `Handled`. -/
def Legible (Handled : Json → Prop) (hs : List Happening) : Prop :=
  ∀ url method params v, .answered (.post url method params) (.ok v) ∈ hs →
    ∃ ms, v = .obj ms ∧ Rpc.HasWholeCode ms ∧ ∀ r, Rpc.resultOf? (.ok v) = some r → Handled r

variable {Handled : Json → Prop} {url : Text} {method : String} {params : List Json}

theorem legible_nil : Legible Handled [] := by
  intro url method params v hv
  cases hv

theorem legible_broken {b : Breakdown} :
    Legible Handled [.answered (.post url method params) (.error b)] := by
  intro url' method' params' v hv
  cases List.mem_singleton.mp hv

theorem legible_abandoned {c : Call} : Legible Handled [.abandoned c] := by
  intro url method params v hv
  cases List.mem_singleton.mp hv

theorem legible_answered {v : Json} :
    Legible Handled [.answered (.post url method params) (.ok v)] ↔
      ∃ ms, v = .obj ms ∧ Rpc.HasWholeCode ms ∧ ∀ r, Rpc.resultOf? (.ok v) = some r → Handled r := by
  constructor
  · intro h
    exact h url method params v List.mem_cons_self
  · rintro h url' method' params' v' hv
    cases List.mem_singleton.mp hv
    exact h

/-- **A question ends as documented exactly when its response is legible.** -/
theorem query_ends_iff {e : Ending (Attempt α)} {m m' : Memory} {hs : List Happening}
    (hreads : ∀ v, Handled v → Reads read Usable Absent v)
    (hbreaks : ∀ v, ¬Handled v → ∃ b, read v = .error b)
    (h : (query url method params read).Course m hs e m') :
    Ends url method params Usable Absent hs e ↔ Legible Handled hs := by
  obtain ⟨-, ⟨response, rfl, rfl⟩ | ⟨rfl, rfl⟩⟩ := course_query h
  · cases response with
    | error b => exact iff_of_true .broken legible_broken
    | ok v =>
      rw [legible_answered]
      constructor
      · intro h
        generalize ha : attemptOf read (.ok v) = a at h
        cases h
        rename_i ms a _
        refine ⟨ms, rfl, ?_, ?_⟩
        · refine Classical.byContradiction fun hwhole => ?_
          obtain ⟨b, hb⟩ := attemptOf_of_not_whole read hwhole
          rw [hb] at ha
          cases ha
        · intro r hr
          refine Classical.byContradiction fun hhandled => ?_
          obtain ⟨b, hb⟩ := hbreaks r hhandled
          rw [attemptOf_of_result hr, hb] at ha
          cases ha
      · rintro ⟨ms, rfl, hwhole, hhandled⟩
        obtain ⟨a, ha, hanswers⟩ :=
          answers_attemptOf hwhole fun r hr => hreads r (hhandled r hr)
        rw [ha]
        exact .answered hanswers
  · exact iff_of_true .cancelled legible_abandoned

/-- Any result is handled. -/
def Any (_ : Json) : Prop := True

/-- Null and objects are handled. -/
def NullOrObject (v : Json) : Prop := v = .null ∨ ∃ ms, v = .obj ms

theorem query_run_ends_iff (hreads : ∀ v, Handled v → Reads read Usable Absent v)
    (hbreaks : ∀ v, ¬Handled v → ∃ b, read v = .error b) (w : Surroundings) (start : Progress) :
    Ends url method params Usable Absent ((query url method params read).transcript w start)
        ((query url method params read).run w start).1 ↔
      Legible Handled ((query url method params read).transcript w start) :=
  query_ends_iff hreads hbreaks (run_course w _ start)

/-- **What a node responds becomes an answer.**  Each of the four questions ends as documented exactly when
the response is an object whose error has no unreadable code and, where a transaction was asked for, whose
result is null or an object. -/
theorem ofNode_ends_iff (url : Text) (w : Surroundings) (start : Progress) :
    (∀ tx, NoneNegative quantityKeys tx → ∃ wire, wireTransaction (.obj tx) = .ok wire ∧
      (Ends url "eth_sendTransaction" [.obj wire] IsHash Never
          (((ofNode url).send (.obj tx)).transcript w start)
          (((ofNode url).send (.obj tx)).run w start).1 ↔
        Legible Any (((ofNode url).send (.obj tx)).transcript w start))) ∧
    (∀ hash,
      (Ends url "eth_getTransactionReceipt" [hash] IsReceipt IsNull
          (((ofNode url).receipt hash).transcript w start) (((ofNode url).receipt hash).run w start).1 ↔
        Legible Any (((ofNode url).receipt hash).transcript w start))) ∧
    (∀ hash,
      (Ends url "eth_getTransactionByHash" [hash] IsTransaction IsNull
          (((ofNode url).transaction hash).transcript w start)
          (((ofNode url).transaction hash).run w start).1 ↔
        Legible NullOrObject (((ofNode url).transaction hash).transcript w start))) ∧
    (Ends url "eth_blockNumber" [] IsHeight Never ((ofNode url).height.transcript w start)
        ((ofNode url).height.run w start).1 ↔
      Legible Any ((ofNode url).height.transcript w start)) := by
  have hnone : ∀ {β : Type} {r : Json → Attempt β} (v : Json), ¬Any v → ∃ b, r v = .error b :=
    fun v hv => absurd trivial hv
  refine ⟨fun tx htx => ?_, fun hash => ?_, fun hash => ?_, ?_⟩
  · obtain ⟨wire, hwire⟩ := wireTransaction_isOk htx
    refine ⟨wire, hwire, ?_⟩
    simp only [ofNode, hwire]
    exact query_run_ends_iff (fun v _ => reads_hash v) hnone w start
  · exact query_run_ends_iff (fun v _ => reads_receipt hash v) hnone w start
  · exact query_run_ends_iff (fun v hv => reads_transaction hash hv)
      (fun v hv => ⟨_, transactionAnswer_shapeless hash hv⟩) w start
  · exact query_run_ends_iff (fun v _ => reads_height v) hnone w start

/-- Surroundings in which every request gets this response. -/
def responding (response : Json) : Surroundings where
  respond _
    | .post _ _ _ => .ok response
    | .send _ => .error .shapeless
    | .receipt _ => .error .shapeless
    | .transaction _ => .error .shapeless
    | .height => .error .shapeless

/-- A transaction whose quantities are not below zero. -/
def sampleTransaction : Json.Members :=
  [("value", .int 0), ("gas", .int 21000), ("nonce", .bool true), ("data", .str "0x7b7d")]

theorem ofNode_ends_iff_accepted :
    NoneNegative quantityKeys sampleTransaction ∧
      ∃ wire, wireTransaction (.obj sampleTransaction) = .ok wire ∧
        Ends "http://node" "eth_sendTransaction" [.obj wire] IsHash Never
          (((ofNode "http://node").send (.obj sampleTransaction)).transcript
            (responding (.obj [("result", .str "0xab")])) ⟨.fresh, 0, 0, []⟩)
          (((ofNode "http://node").send (.obj sampleTransaction)).run
            (responding (.obj [("result", .str "0xab")])) ⟨.fresh, 0, 0, []⟩).1 := by
  have hquantities : NoneNegative quantityKeys sampleTransaction := by
    intro key hkey n hn
    simp only [quantityKeys, List.mem_cons, List.not_mem_nil, or_false] at hkey
    rcases hkey with rfl | rfl | rfl | rfl
    · cases hn
      decide
    · cases hn
      decide
    · cases hn
    · cases hn
  refine ⟨hquantities, ?_⟩
  obtain ⟨wire, hwire, h⟩ := (ofNode_ends_iff "http://node" (responding (.obj [("result", .str "0xab")]))
    ⟨.fresh, 0, 0, []⟩).1 sampleTransaction hquantities
  refine ⟨wire, hwire, h.mpr ?_⟩
  simp only [ofNode, hwire]
  refine legible_answered.mpr ⟨_, rfl, ?_, fun _ _ => trivial⟩
  intro fields hfields
  cases hfields

/-- A response whose error has a code that is no number. -/
def codeless : Json := .obj [("error", .obj [("code", .str "oops"), ("message", .str "m")])]

/-- A response whose result is a list. -/
def listed : Json := .obj [("result", .arr [])]

/-- **Two responses make no answer**: they break the question down, which is not how it is documented to
end. -/
theorem not_ends_illegible :
    ((((ofNode "http://node").receipt (.str "0xab")).run (responding codeless) ⟨.fresh, 0, 0, []⟩).1 =
        .finished (.error (.response (.code (.numeral (.notANumeral "oops"))))) ∧
      ¬Ends "http://node" "eth_getTransactionReceipt" [.str "0xab"] IsReceipt IsNull
        (((ofNode "http://node").receipt (.str "0xab")).transcript (responding codeless)
          ⟨.fresh, 0, 0, []⟩)
        (((ofNode "http://node").receipt (.str "0xab")).run (responding codeless) ⟨.fresh, 0, 0, []⟩).1) ∧
      (((ofNode "http://node").transaction (.str "0xab")).run (responding listed) ⟨.fresh, 0, 0, []⟩).1 =
        .finished (.error .shapeless) ∧
      ¬Ends "http://node" "eth_getTransactionByHash" [.str "0xab"] IsTransaction IsNull
        (((ofNode "http://node").transaction (.str "0xab")).transcript (responding listed)
          ⟨.fresh, 0, 0, []⟩)
        (((ofNode "http://node").transaction (.str "0xab")).run (responding listed)
          ⟨.fresh, 0, 0, []⟩).1 := by
  refine ⟨⟨rfl, fun h => ?_⟩, rfl, fun h => ?_⟩
  · cases h
  · cases h

end Ledger

end DidRegistry
