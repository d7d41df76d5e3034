import DidRegistry.Platform.Usual
import DidRegistry.Proofs.Ledger.Quantity
import DidRegistry.Proofs.Publisher.Publishable

/-!
# Quantities of a submission

What a publisher submits to a node moves no value and pays the fees that are set, each of them as a quantity
that gives back the number as it is.  A fee that is set as a binary number is the exception: the schema takes
it for a whole number when it has a fraction of zero, and it goes out as it came in.

## Results

* `Ledger.get?_wireTransaction` — the members of a transaction on the wire, by induction on the members that
  are quantities.
* `Publisher.asks_publish` — publishing submits the planned call and nothing else.
* `Publisher.publish_exact_iff` — **what is submitted carries exact quantities exactly when no fee is given
  as a binary number**; a fee that is goes out as that number.
-/

set_option autoImplicit false

namespace DidRegistry

/-- A member as it goes out: a whole number or a truth value as a quantity, and anything else as it is. -/
def Json.onWire : Json → Json
  | .int n => .str (Quantity.ofNat n.toNat)
  | .bool b => .str (Quantity.ofNat (Number.ofFlag b).toNat)
  | v => v

theorem Json.onWire_onWire (v : Json) : v.onWire.onWire = v.onWire := by
  cases v <;> rfl

namespace Quantity

/-- A value on the wire is a quantity that gives this very number. -/
def IsExact (v : Json) (n : Number) : Prop :=
  ∃ t k, v = .str t ∧ IsWritten t ∧ read v = .ok (some (.int k)) ∧ (Number.int k).equals n = true

/-- A whole number that is not below zero goes out as an exact quantity. -/
theorem isExact_onWire {n : Int} (h : 0 ≤ n) : IsExact (Json.int n).onWire (.int n) := by
  refine ⟨_, n, rfl, isWritten_ofNat _, ?_, (Number.equals_iff_of_whole rfl rfl).mpr rfl⟩
  rw [Json.onWire, read_ofNat, Int.toNat_of_nonneg h]

/-- A binary number goes out as it is, which is no quantity. -/
theorem not_isExact_real (x : Binary64) (n : Number) : ¬ IsExact (Json.real x).onWire n := by
  rintro ⟨t, k, ht, -⟩
  cases ht

end Quantity

/-! ## Transactions on the wire -/

namespace Ledger

variable {ms wire : Json.Members}

theorem get?_withQuantity {key : String} (h : withQuantity ms key = .ok wire) (other : Text) :
    Json.Members.get? wire other =
      if other = key then (Json.Members.get? ms key).map Json.onWire else Json.Members.get? ms other := by
  -- a member that is not touched goes out as it is
  have hsame : (Json.Members.get? ms key).map Json.onWire = Json.Members.get? ms key →
      Json.Members.get? ms other =
        if other = key then (Json.Members.get? ms key).map Json.onWire
          else Json.Members.get? ms other := by
    intro he
    split
    · rename_i hother
      rw [he, hother]
    · rfl
  unfold withQuantity at h
  cases hm : Json.Members.get? ms key with
  | none =>
    rw [hm] at h hsame
    cases h
    exact hsame rfl
  | some v =>
    rw [hm] at h hsame
    cases v with
    | int n | bool b =>
      obtain ⟨q, hq, rfl⟩ := map_eq_ok.mp h
      unfold Quantity.ofNumber at hq
      split at hq
      · cases hq
      · cases hq
        rw [Json.Members.get?_put]
        rfl
    | _ =>
      cases h
      exact hsame rfl

theorem get?_foldlM_withQuantity {keys : List String} (h : keys.foldlM withQuantity ms = .ok wire)
    (other : Text) :
    Json.Members.get? wire other =
      if other ∈ keys.map Text.ofString then (Json.Members.get? ms other).map Json.onWire
        else Json.Members.get? ms other := by
  induction keys generalizing ms with
  | nil =>
    cases h
    rfl
  | cons key rest ih =>
    rw [List.foldlM_cons] at h
    obtain ⟨next, hnext, hrest⟩ := bind_eq_ok.mp h
    rw [ih hrest, get?_withQuantity hnext, List.map_cons]
    by_cases hkey : other = Text.ofString key
    · rw [if_pos hkey, ← hkey, if_pos List.mem_cons_self]
      split
      · rw [Option.map_map]
        exact congrArg (fun f => Option.map f _) (funext Json.onWire_onWire)
      · rfl
    · rw [if_neg hkey]
      simp only [List.mem_cons, hkey, false_or]

/-- The members of a transaction on the wire. -/
theorem get?_wireTransaction (h : wireTransaction (.obj ms) = .ok wire) (other : Text) :
    Json.Members.get? wire other =
      if other ∈ quantityKeys.map Text.ofString then (Json.Members.get? ms other).map Json.onWire
        else Json.Members.get? ms other := by
  obtain ⟨es, hes, rfl⟩ := toMembers_ofJson_obj ms
  unfold wireTransaction at h
  rw [hes] at h
  exact get?_foldlM_withQuantity (mapError_eq_ok.mp h) other

end Ledger

/-! ## Submissions -/

namespace Publisher

open Dialogue

variable {p : Publisher} {url : Text}

/-- An ask that, if it is a submission, submits the planned call. -/
def Submits [Platform] (p : Publisher) (url : Text) (payload : List UInt8) (a : Ask) : Prop :=
  a.isSubmission = true → ∃ call wire, p.plan payload = .ok call ∧
    Ledger.wireTransaction (.obj call.toMembers) = .ok wire ∧
      a = .call (.post url Call.submissionMethod [.obj wire])

theorem submits_of_quiet [Platform] {payload : List UInt8} {a : Ask} (h : a.isQuiet = true) :
    p.Submits url payload a := by
  intro hs
  cases a with
  | call c =>
    simp only [Ask.isQuiet, Bool.not_eq_true'] at h
    rw [Ask.isSubmission, h] at hs
    cases hs
  | _ => cases hs

/-- **Publishing submits the planned call and nothing else.** -/
theorem asks_publish [Platform] (hl : p.ledger = .ofNode url) (payload : List UInt8) (memo : Json) :
    (p.publish payload memo).Asks (p.Submits url payload) := by
  have hclient : p.ledger.IsClient := hl ▸ .ofNode url
  refine asks_publication (fun call hc => ?_) (fun hash hs => by cases hs) fun hash => ?_
  · rw [hl]
    exact Ledger.asks_send fun wire hw _ => ⟨call, wire, hc, hw, rfl⟩
  · exact (quiet_awaitAll hclient hash).mono fun a ha => submits_of_quiet ha

/-- A member of a transaction on the wire is a quantity that gives this very number. -/
def Carries (wire : Json.Members) (key : String) (n : Number) : Prop :=
  ∃ q, wire.get? key = some q ∧ Quantity.IsExact q n

/-- The quantities of a transaction on the wire are exact: it moves no value and pays the fees. -/
structure CarriesFees (fees : Fees) (wire : Json.Members) : Prop where
  value : Carries wire "value" (.int 0)
  price : Carries wire "gasPrice" fees.price
  limit : Carries wire "gas" fees.limit

theorem carries_iff {wire : Json.Members} {key : String} {v : Json} {n : Number}
    (h : wire.get? key = some v) : Carries wire key n ↔ Quantity.IsExact v n := by
  unfold Carries
  rw [h]
  simp

/-- The settings of the fees. -/
def feeSettings : List String := ["fee_price", "fee_limit"]

/-- What a course of publishing submits, by how the fees are given. -/
theorem course_publish_exact [Platform] (hl : p.ledger = .ofNode url) {v : Json}
    (hs : PublisherSettings.ofJson v = .ok p.settings) {payload : List UInt8} {memo : Json} {m m' : Memory}
    {hs' : List Happening} {e : Ending (Except PublishError Publication)}
    (h : (p.publish payload memo).Course m hs' e m') {x : Happening} (hx : x ∈ hs')
    (hsubmission : x.isSubmission = true) :
    ∃ wire : Json.Members, x.ask = .call (.post url "eth_sendTransaction" [.obj wire]) ∧
      Carries wire "value" (.int 0) ∧
      (CarriesFees p.settings.fees wire ↔
        ∀ key ∈ feeSettings, ∀ y, v.get? (Text.ofString key) ≠ some (.real y)) ∧
      (∀ y, v.get? "fee_price" = some (.real y) → wire.get? "gasPrice" = some (.real y)) ∧
      ∀ y, v.get? "fee_limit" = some (.real y) → wire.get? "gas" = some (.real y) := by
  obtain ⟨call, wire, hplan, hwire, hask⟩ :=
    (asks_publish hl payload memo).course h x hx hsubmission
  obtain ⟨ms, rfl, hgiven⟩ := PublisherSettings.givenBy_of_ofJson hs
  have hvalue : wire.get? "value" = some (Json.int 0).onWire := by
    rw [Ledger.get?_wireTransaction hwire]
    rfl
  have hprice : wire.get? "gasPrice" = some (Json.ofNumber p.settings.fees.price).onWire := by
    rw [Ledger.get?_wireTransaction hwire, ← plan_fees hplan]
    rfl
  have hlimit : wire.get? "gas" = some (Json.ofNumber p.settings.fees.limit).onWire := by
    rw [Ledger.get?_wireTransaction hwire, ← plan_fees hplan]
    rfl
  have hzero : Carries wire "value" (.int 0) := (carries_iff hvalue).mpr (Quantity.isExact_onWire Int.le_rfl)
  have hpriceReal := numberSetting_real hgiven.price
  have hlimitReal := numberSetting_real hgiven.limit
  refine ⟨wire, hask, hzero, ⟨fun hexact key hkey y hy => ?_, fun hnot => ⟨hzero, ?_, ?_⟩⟩, ?_, ?_⟩
  · simp only [feeSettings, List.mem_cons, List.not_mem_nil, or_false] at hkey
    rcases hkey with rfl | rfl
    · have he := (carries_iff hprice).mp hexact.price
      rw [(hpriceReal y).mpr hy] at he
      exact Quantity.not_isExact_real y _ he
    · have he := (carries_iff hlimit).mp hexact.limit
      rw [(hlimitReal y).mpr hy] at he
      exact Quantity.not_isExact_real y _ he
  · obtain ⟨n, hn, hleast⟩ :=
      hgiven.price_whole fun y hy => hnot _ List.mem_cons_self y ((hpriceReal y).mp hy)
    rw [carries_iff hprice, hn]
    exact Quantity.isExact_onWire hleast
  · obtain ⟨n, hn, hleast⟩ :=
      hgiven.limit_whole fun y hy => hnot _ (.tail _ (.head _)) y ((hlimitReal y).mp hy)
    rw [carries_iff hlimit, hn]
    exact Quantity.isExact_onWire (by omega)
  · intro y hy
    rw [hprice, (hpriceReal y).mpr hy]
    rfl
  · intro y hy
    rw [hlimit, (hlimitReal y).mpr hy]
    rfl

/-- **What is submitted carries exact quantities exactly when no fee is given as a binary number**, whatever
is published and whatever the node replies; it moves no value in any case, and a fee that is given as a binary
number goes out as that number. -/
theorem publish_exact_iff [Platform] {p : Publisher} {url : Text} (hl : p.ledger = .ofNode url) {v : Json}
    (hs : PublisherSettings.ofJson v = .ok p.settings) (payload : List UInt8) (memo : Json)
    (w : Surroundings) (start : Progress) {x : Happening}
    (hx : x ∈ (p.publish payload memo).transcript w start) (hsubmission : x.isSubmission = true) :
    ∃ wire : Json.Members, x.ask = .call (.post url "eth_sendTransaction" [.obj wire]) ∧
      Carries wire "value" (.int 0) ∧
      (CarriesFees p.settings.fees wire ↔
        ∀ key ∈ feeSettings, ∀ y, v.get? (Text.ofString key) ≠ some (.real y)) ∧
      (∀ y, v.get? "fee_price" = some (.real y) → wire.get? "gasPrice" = some (.real y)) ∧
      ∀ y, v.get? "fee_limit" = some (.real y) → wire.get? "gas" = some (.real y) :=
  course_publish_exact hl hs (run_course w (p.publish payload memo) start) hx hsubmission

/-- An object with a price. -/
def pricedObject (price : Number) : Json :=
  .obj [("rpc_url", .str "http://localhost:8545"),
    ("contract_address", .str "0x2222222222222222222222222222222222222222"),
    ("fee_price", .ofNumber price)]

/-- The publisher with the settings that it gives, behind a node. -/
def priced (price : Number) : Publisher where
  ledger := .ofNode "http://localhost:8545"
  account := ⟨List.replicate 40 '1'⟩
  settings := { sampleSettings Setting.defaultPolls with fees := ⟨price, Fees.defaultLimit⟩ }

section

attribute [local instance] Platform.usual

/-- The publisher submits what it publishes. -/
theorem exists_submission_priced {price : Number}
    (hs : PublisherSettings.ofJson (pricedObject price) = .ok (priced price).settings) :
    ∃ x ∈ ((priced price).publish [0x7b, 0x7d] .null).transcript unminedNode ⟨.fresh, 0, 0, []⟩,
      x.isSubmission = true := by
  have hcontract :
      Platform.names (Text.ofString "0x2222222222222222222222222222222222222222").chars = true := by
    decide +kernel
  obtain ⟨ms, -, hgiven⟩ := PublisherSettings.givenBy_of_ofJson hs
  obtain ⟨data, hdata⟩ := CallData.encode_isOk_iff.mpr
    ⟨show ([0x7b, 0x7d] : List UInt8) ≠ [] by decide, by decide⟩
  have hsender : Platform.names (Text.ofString (priced price).account.toText).chars = true :=
    Address.isForty_toText isValid_ones
  have honce := submissionsIn_publish (p := priced price) (.ofNode _) hgiven hdata hsender rfl .null
    unminedNode ⟨.fresh, 0, 0, []⟩
  rw [hcontract, if_pos rfl] at honce
  exact List.countP_pos_iff.mp (Nat.lt_of_lt_of_eq Nat.zero_lt_one honce.symm)

theorem publish_exact_iff_one :
    PublisherSettings.ofJson (pricedObject (.int 1)) = .ok (priced (.int 1)).settings ∧
      ∃ x ∈ ((priced (.int 1)).publish [0x7b, 0x7d] .null).transcript unminedNode ⟨.fresh, 0, 0, []⟩,
        x.isSubmission = true ∧
          ∃ wire : Json.Members,
            x.ask = .call (.post "http://localhost:8545" "eth_sendTransaction" [.obj wire]) ∧
            CarriesFees ⟨.int 1, Fees.defaultLimit⟩ wire := by
  have hs : PublisherSettings.ofJson (pricedObject (.int 1)) = .ok (priced (.int 1)).settings :=
    toOption_eq_some.mp (by decide +kernel)
  obtain ⟨x, hx, hsubmission⟩ := exists_submission_priced hs
  obtain ⟨wire, hask, -, hexact, -, -⟩ := publish_exact_iff (p := priced (.int 1)) rfl hs [0x7b, 0x7d] .null
    unminedNode ⟨.fresh, 0, 0, []⟩ hx hsubmission
  refine ⟨hs, x, hx, hsubmission, wire, hask, hexact.mpr fun key hkey y hy => ?_⟩
  simp only [feeSettings, List.mem_cons, List.not_mem_nil, or_false] at hkey
  rcases hkey with rfl | rfl
  · cases Option.some.inj hy
  · cases hy

/-- **A price with a fraction of zero is taken, and it goes out as a binary number**, which is no quantity. -/
theorem not_exact_one :
    PublisherSettings.ofJson (pricedObject (.real (Binary64.ofInt 1))) =
        .ok (priced (.real (Binary64.ofInt 1))).settings ∧
      ∃ x ∈ ((priced (.real (Binary64.ofInt 1))).publish [0x7b, 0x7d] .null).transcript unminedNode
          ⟨.fresh, 0, 0, []⟩,
        x.isSubmission = true ∧
          ∃ wire : Json.Members,
            x.ask = .call (.post "http://localhost:8545" "eth_sendTransaction" [.obj wire]) ∧
            wire.get? "gasPrice" = some (.real (Binary64.ofInt 1)) ∧
              ¬ CarriesFees ⟨.real (Binary64.ofInt 1), Fees.defaultLimit⟩ wire := by
  have hs : PublisherSettings.ofJson (pricedObject (.real (Binary64.ofInt 1))) =
      .ok (priced (.real (Binary64.ofInt 1))).settings :=
    toOption_eq_some.mp (by decide +kernel)
  obtain ⟨x, hx, hsubmission⟩ := exists_submission_priced hs
  obtain ⟨wire, hask, -, hexact, hprice, -⟩ := course_publish_exact (p := priced (.real (Binary64.ofInt 1)))
    rfl
    hs (run_course unminedNode _ ⟨.fresh, 0, 0, []⟩) hx hsubmission
  exact ⟨hs, x, hx, hsubmission, wire, hask, hprice _ rfl, fun hcarries =>
    hexact.mp hcarries "fee_price" List.mem_cons_self _ rfl⟩

end

end Publisher

end DidRegistry
