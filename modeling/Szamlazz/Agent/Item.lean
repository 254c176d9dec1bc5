import Szamlazz.Agent.Numeral

/-!
# Line items

A line item states its net, VAT and gross values. The one constructor that
derives them is exact or refuses: each of the three is the exact product or sum,
rounded at most once, and an intermediate that no decimal is – a product, a rate
token, a hundredth, a sum – is an error that names the step, even if rounding
would have made it one.

`Calculation.run` is that calculation on rational numbers, with the first step
that leaves the decimals as its error; `run_tryCalculated` says that the code,
which computes in machine words, does just that.
-/

namespace Szamlazz

open FixedPoint Machine

/-! ## Rates -/

/-- The white space of XML. -/
def isXmlSpace (c : Char) : Bool := c == ' ' || c == '\t' || c == '\r' || c == '\n'

/-- A token without the white space around it. -/
def trimXmlSpace (token : String) : String :=
  String.ofList ((token.toList.dropWhile isXmlSpace).rdropWhile isXmlSpace)

theorem length_trimXmlSpace_le (token : String) :
    (trimXmlSpace token).toList.length ≤ token.toList.length := by
  rw [trimXmlSpace, String.toList_ofList]
  exact (List.rdropWhile_prefix _ _).length_le.trans (List.dropWhile_sublist _).length_le

/-- A wire token: a known code, a number, or anything else as it stands. -/
def VatRate.ofStr [RustDecimal] (token : String) : VatRate :=
  if token = "AAM" then .aam
  else if token = "TAM" then .tam
  else if token = "TAHK" then .tahk
  else if token = "EUT" then .eut
  else if token = "EUKT" then .eukt
  else if token = "F.AFA" then .fAfa
  else if token = "K.AFA" then .kAfa
  else if token = "HO" then .ho
  else if token = "EUE" then .eue
  else if token = "EUFADE" then .eufade
  else if token = "EUFAD37" then .eufad37
  else if token = "ATK" then .atk
  else if token = "NAM" then .nam
  else if token = "EAM" then .eam
  else if token = "KBAUK" then .kbauk
  else if token = "KBAET" then .kbaet
  else if token = "ÁKK" then .akk
  else if token = "EU" then .eu
  else if token = "EUK" then .euk
  else if token = "MAA" then .maa
  else
    match Number.parse (trimXmlSpace token) with
    | .ok rate => .percent rate
    | .error _ => .other token

/-- **The percentage a rate is**, if it is one: a number, or a token that spells
one. -/
inductive VatRate.IsPercentage : VatRate → Option ℚ → Prop
  | percent (rate : Decimal) : IsPercentage (.percent rate) (some rate.value)
  | numeral (token : String) (n : Number.Numeral) (h : n.text = (trimXmlSpace token).toList) :
      IsPercentage (.other token) (some n.value)
  | code (rate : VatRate) (hpercent : ∀ d, rate ≠ .percent d)
      (hother : ∀ token (n : Number.Numeral), rate = .other token →
        n.text ≠ (trimXmlSpace token).toList) : IsPercentage rate none

/-! ## Rounding -/

/-- How the derived values are rounded, half away from zero. -/
inductive Rounding where
  | scale (places : ℕ)
  | exact
deriving DecidableEq

/-- The decimal places of the smallest amount of a currency. -/
def Currency.minorUnitDigits (currency : Currency) : ℕ :=
  let code := String.ofList (currency.code.toList.map Char.toUpper)
  if currency.isHuf then 0
  else if code ∈ ["BIF", "CLP", "DJF", "GNF", "ISK", "JPY", "KMF", "KRW", "PYG", "RWF", "UGX",
      "UYI", "VND", "VUV", "XAF", "XOF", "XPF"] then 0
  else if code ∈ ["BHD", "IQD", "JOD", "KWD", "LYD", "OMR", "TND"] then 3
  else if code ∈ ["CLF", "UYW"] then 4
  else 2

namespace Rounding

def minorUnit (currency : Currency) : Rounding := .scale currency.minorUnitDigits

def apply [RustDecimal] : Rounding → Decimal → Decimal
  | scale places, value => RustDecimal.roundDpAwayFromZero places value
  | exact, value => value

/-- The rounding of a number. -/
def round : Rounding → ℚ → ℚ
  | scale places, q => roundAt 10 places q
  | exact, q => q

theorem apply_value [RustDecimal] [LawfulRustDecimal] (rounding : Rounding) (d : Decimal) :
    (rounding.apply d).value = rounding.round d.value := by
  cases rounding with
  | scale places => exact LawfulRustDecimal.roundDpAwayFromZero_value places d
  | exact => rfl

end Rounding

/-! ## The calculation -/

/-- The step whose exact result no decimal is. -/
inductive ArithmeticError where
  | unrepresentableVatRate
  | netOverflow
  | vatOverflow
  | grossOverflow
deriving DecidableEq

def ArithmeticError.display : ArithmeticError → String
  | unrepresentableVatRate =>
    "line item numeric VAT rate cannot be represented exactly by a decimal"
  | netOverflow =>
    "line item net value (unit price × quantity) cannot fit exactly in a decimal"
  | vatOverflow => "line item VAT value (net × rate / 100) cannot fit exactly in a decimal"
  | grossOverflow => "line item gross value (net + VAT) cannot fit exactly in a decimal"

namespace LineItem

/-- A line item with asserted values. -/
def new (name : String) (quantity : Decimal) (unit : String) (unitPrice : Decimal)
    (vatRate : VatRate) (netValue vatValue grossValue : Decimal) : LineItem where
  name := name
  id := none
  quantity := quantity
  unit := unit
  unitPrice := unitPrice
  vatRate := vatRate
  marginVatBase := none
  netValue := netValue
  vatValue := vatValue
  grossValue := grossValue
  comment := none
  ledger := none
  erasureCodeCount := none

section Calculated

variable [RustDecimal]

/-- The percentage of a rate; a number outside the decimals is an error. -/
def percentage : VatRate → Except ArithmeticError (Option Decimal)
  | .percent rate => .ok (some rate)
  | .other token =>
    match Number.numeric (trimXmlSpace token) with
    | none => .ok none
    | some (.ok rate) => .ok (some rate)
    | some (.error _) => .error .unrepresentableVatRate
  | _ => .ok none

/-- The VAT value, zero for a rate that is no percentage. -/
def vatOf (netValue : Decimal) (rounding : Rounding) : Option Decimal → Except Panic (Option Decimal)
  | none => return some Decimal.zero
  | some rate => do
    match ← Number.exactMul netValue rate with
    | none => return none
    | some product => return (← Number.exactDiv100 product).map rounding.apply

/-- The values of a line item, each exact before it is rounded, or the first step
that cannot be. -/
def tryCalculatedRun (name : String) (quantity : Decimal) (unit : String) (unitPrice : Decimal)
    (vatRate : VatRate) (rounding : Rounding) : Except Panic (Except ArithmeticError LineItem) := do
  match ← Number.exactMul unitPrice quantity with
  | none => return .error .netOverflow
  | some net =>
    let netValue := rounding.apply net
    match percentage vatRate with
    | .error e => return .error e
    | .ok percentage =>
      match ← vatOf netValue rounding percentage with
      | none => return .error .vatOverflow
      | some vatValue =>
        match ← Number.exactAdd netValue vatValue with
        | none => return .error .grossOverflow
        | some grossValue =>
          return .ok (new name quantity unit unitPrice vatRate netValue vatValue grossValue)

theorem vatOf_total (netValue : Decimal) (rounding : Rounding) (rate : Option Decimal) :
    ∃ o, vatOf netValue rounding rate = .ok o := by
  cases rate with
  | none => exact ⟨_, rfl⟩
  | some rate =>
    obtain ⟨o, ho, -⟩ := Number.exactMul_spec netValue rate
    unfold vatOf
    dsimp only
    rw [ho, ok_bind]
    cases o with
    | none => exact ⟨_, rfl⟩
    | some product =>
      obtain ⟨o', ho', -⟩ := Number.exactDiv100_spec product
      dsimp only
      rw [ho', ok_bind]
      exact ⟨_, rfl⟩

/-- **The calculation is never aborted.** -/
theorem tryCalculatedRun_total (name : String) (quantity : Decimal) (unit : String)
    (unitPrice : Decimal) (vatRate : VatRate) (rounding : Rounding) :
    ∃ r, tryCalculatedRun name quantity unit unitPrice vatRate rounding = .ok r := by
  obtain ⟨net, hnet, -⟩ := Number.exactMul_spec unitPrice quantity
  unfold tryCalculatedRun
  rw [hnet, ok_bind]
  cases net with
  | none => exact ⟨_, rfl⟩
  | some net =>
    dsimp only
    cases percentage vatRate with
    | error e => exact ⟨_, rfl⟩
    | ok rate =>
      obtain ⟨vat, hvat⟩ := vatOf_total (rounding.apply net) rounding rate
      dsimp only
      rw [hvat, ok_bind]
      cases vat with
      | none => exact ⟨_, rfl⟩
      | some vat =>
        obtain ⟨gross, hgross, -⟩ := Number.exactAdd_spec (rounding.apply net) vat
        dsimp only
        rw [hgross, ok_bind]
        cases gross with
        | none => exact ⟨_, rfl⟩
        | some gross => exact ⟨_, rfl⟩

/-- The line item of that calculation. -/
def tryCalculated (name : String) (quantity : Decimal) (unit : String) (unitPrice : Decimal)
    (vatRate : VatRate) (rounding : Rounding) : Except ArithmeticError LineItem :=
  get _ (tryCalculatedRun_total name quantity unit unitPrice vatRate rounding)

end Calculated

end LineItem

/-! ## The calculation on numbers -/

namespace Calculation

/-- Whether the VAT of a net value can be computed exactly. -/
def VatExact (net : ℚ) : Option ℚ → Prop
  | none => True
  | some rate => Decimal.Representable (net * rate) ∧ Decimal.Representable (net * rate / 100)

/-- The VAT of a net value. -/
def vat (net : ℚ) (rounding : Rounding) : Option ℚ → ℚ
  | none => 0
  | some rate => rounding.round (net * rate / 100)

open scoped Classical in
/-- **The calculation**: net, VAT and gross as numbers, or the first step that leaves
the decimals. -/
noncomputable def run (price quantity : ℚ) (rate : Option ℚ) (rounding : Rounding) :
    Except ArithmeticError (ℚ × ℚ × ℚ) :=
  let net := rounding.round (price * quantity)
  let vat := vat net rounding rate
  if ¬ Decimal.Representable (price * quantity) then .error .netOverflow
  else if ∃ q, rate = some q ∧ ¬ Decimal.Representable q then .error .unrepresentableVatRate
  else if ¬ VatExact net rate then .error .vatOverflow
  else if ¬ Decimal.Representable (net + vat) then .error .grossOverflow
  else .ok (net, vat, net + vat)

/-- The values of a calculation that succeeds. -/
theorem run_eq_ok {price quantity : ℚ} {rate : Option ℚ} {rounding : Rounding} {v : ℚ × ℚ × ℚ}
    (h : run price quantity rate rounding = .ok v) :
    v = (rounding.round (price * quantity), vat (rounding.round (price * quantity)) rounding rate,
      rounding.round (price * quantity) + vat (rounding.round (price * quantity)) rounding rate) := by
  unfold run at h
  dsimp only at h
  split_ifs at h
  exact (Except.ok.inj h).symm

end Calculation

namespace LineItem

/-! ## What is calculated -/

/-- A token that spells no number is no percentage, and every other one is. -/
theorem exists_isPercentage (vatRate : VatRate) : ∃ rate, vatRate.IsPercentage rate := by
  by_cases hpercent : ∃ d, vatRate = .percent d
  · obtain ⟨d, rfl⟩ := hpercent
    exact ⟨_, .percent d⟩
  · by_cases hother : ∃ token, ∃ n : Number.Numeral, vatRate = .other token
        ∧ n.text = (trimXmlSpace token).toList
    · obtain ⟨token, n, rfl, hn⟩ := hother
      exact ⟨_, .numeral token n hn⟩
    · refine ⟨none, .code vatRate (fun d hd => hpercent ⟨d, hd⟩) ?_⟩
      exact fun token n htoken hn => hother ⟨token, n, htoken, hn⟩

section Steps

variable [RustDecimal]

theorem percentage_other (token : String) :
    percentage (.other token)
      = match Number.numeric (trimXmlSpace token) with
        | none => .ok none
        | some (.ok rate) => .ok (some rate)
        | some (.error _) => .error .unrepresentableVatRate := rfl

/-- **The percentage is read exactly**, or refused because no decimal is it. -/
theorem percentage_spec [LawfulRustDecimal] {vatRate : VatRate} {rate : Option ℚ}
    (hrate : vatRate.IsPercentage rate)
    (hsize : ∀ token, vatRate = .other token → token.toList.length < 2 ^ 62) :
    match percentage vatRate with
    | .ok p => p.map Decimal.value = rate ∧ ¬ ∃ q, rate = some q ∧ ¬ Decimal.Representable q
    | .error e => e = .unrepresentableVatRate ∧ ∃ q, rate = some q ∧ ¬ Decimal.Representable q := by
  have key : ∀ d : Decimal, ¬ ∃ q, some d.value = some q ∧ ¬ Decimal.Representable q := by
    rintro d ⟨q, hq, hrep⟩
    exact hrep (Option.some.inj hq ▸ d.representable_value)
  cases hrate with
  | percent d => exact ⟨rfl, key d⟩
  | numeral token n hn =>
    obtain ⟨r, hr, hexactly⟩ := Number.numeric_text n hn
      ((length_trimXmlSpace_le token).trans_lt (hsize token rfl))
    rw [percentage_other, hr]
    cases r with
    | error e => exact ⟨rfl, n.value, rfl, hexactly⟩
    | ok d =>
      have hd : d.value = n.value := hexactly
      rw [← hd]
      exact ⟨rfl, key d⟩
  | code _ hpercent hother =>
    cases vatRate with
    | percent d => exact absurd rfl (hpercent d)
    | other token =>
      have hnone : Number.numeric (trimXmlSpace token) = none := by
        rw [← Option.not_isSome_iff_eq_none, Number.isSome_numeric_iff]
        rintro ⟨n, hn⟩
        exact hother token n rfl hn
      rw [percentage_other, hnone]
      exact ⟨rfl, by simp⟩
    | _ => exact ⟨rfl, by simp⟩

/-- **The VAT is the rounded hundredth of the product**, both of them exact. -/
theorem vatOf_spec [LawfulRustDecimal] (netValue : Decimal) (rounding : Rounding)
    (rate : Option Decimal) :
    ∃ o, vatOf netValue rounding rate = .ok o
      ∧ match o with
        | some vat => Calculation.VatExact netValue.value (rate.map Decimal.value)
            ∧ vat.value = Calculation.vat netValue.value rounding (rate.map Decimal.value)
        | none => ¬ Calculation.VatExact netValue.value (rate.map Decimal.value) := by
  cases rate with
  | none => exact ⟨_, rfl, trivial, Decimal.value_zero⟩
  | some rate =>
    obtain ⟨o, ho, hproduct⟩ := Number.exactMul_spec netValue rate
    unfold vatOf
    dsimp only
    rw [ho, ok_bind]
    cases o with
    | none => exact ⟨_, rfl, fun h => hproduct h.1⟩
    | some product =>
      have hvalue : product.value = netValue.value * rate.value := hproduct
      obtain ⟨o', ho', hhundredth⟩ := Number.exactDiv100_spec product
      rw [hvalue] at hhundredth
      dsimp only
      rw [ho', ok_bind]
      cases o' with
      | none => exact ⟨_, rfl, fun h => hhundredth h.2⟩
      | some vat =>
        have hvat : vat.value = netValue.value * rate.value / 100 := hhundredth
        refine ⟨_, rfl, ⟨?_, ?_⟩, ?_⟩
        · rw [← hvalue]
          exact product.representable_value
        · rw [← hvat]
          exact vat.representable_value
        · show (rounding.apply vat).value = rounding.round (netValue.value * rate.value / 100)
          rw [rounding.apply_value, hvat]

/-- The values of a line item, as numbers. -/
def values (item : LineItem) : ℚ × ℚ × ℚ :=
  (item.netValue.value, item.vatValue.value, item.grossValue.value)

/-- **The code calculates**: it is never aborted, and its values or its error are
those of the calculation on numbers. -/
theorem run_tryCalculated [LawfulRustDecimal] (name : String) (quantity : Decimal) (unit : String)
    (unitPrice : Decimal) (vatRate : VatRate) (rounding : Rounding) {rate : Option ℚ}
    (hrate : vatRate.IsPercentage rate)
    (hsize : ∀ token, vatRate = .other token → token.toList.length < 2 ^ 62) :
    ∃ r, tryCalculatedRun name quantity unit unitPrice vatRate rounding = .ok r
      ∧ r.map values = Calculation.run unitPrice.value quantity.value rate rounding := by
  obtain ⟨net, hnet, hproduct⟩ := Number.exactMul_spec unitPrice quantity
  unfold tryCalculatedRun Calculation.run
  rw [hnet, ok_bind]
  dsimp only
  -- Both calculations stop at the first result that is not representable.
  cases net with
  | none => exact ⟨_, rfl, (if_pos hproduct).symm⟩
  | some net =>
    have hrep : Decimal.Representable (unitPrice.value * quantity.value) := by
      rw [← show net.value = unitPrice.value * quantity.value from hproduct]
      exact net.representable_value
    have hvalue : (rounding.apply net).value = rounding.round (unitPrice.value * quantity.value) := by
      rw [rounding.apply_value, show net.value = unitPrice.value * quantity.value from hproduct]
    rw [if_neg (not_not.mpr hrep)]
    have hpercentage := percentage_spec hrate hsize
    dsimp only
    cases hp : percentage vatRate with
    | error e =>
      rw [hp] at hpercentage
      obtain ⟨rfl, hq⟩ := hpercentage
      exact ⟨_, rfl, (if_pos hq).symm⟩
    | ok p =>
      rw [hp] at hpercentage
      obtain ⟨hmap, hq⟩ := hpercentage
      rw [if_neg hq]
      obtain ⟨vat, hvat, hexact⟩ := vatOf_spec (rounding.apply net) rounding p
      rw [hmap, hvalue] at hexact
      dsimp only
      rw [hvat, ok_bind]
      cases vat with
      | none => exact ⟨_, rfl, (if_pos hexact).symm⟩
      | some vat =>
        obtain ⟨hvatExact, hvatValue⟩ := hexact
        rw [if_neg (not_not.mpr hvatExact)]
        obtain ⟨gross, hgross, hsum⟩ := Number.exactAdd_spec (rounding.apply net) vat
        rw [hvalue, hvatValue] at hsum
        dsimp only
        rw [hgross, ok_bind]
        cases gross with
        | none => exact ⟨_, rfl, (if_pos hsum).symm⟩
        | some gross =>
          have hgrossValue : gross.value = _ := hsum
          have hgrossRep := gross.representable_value
          rw [hgrossValue] at hgrossRep
          refine ⟨_, rfl, ?_⟩
          rw [if_neg (not_not.mpr hgrossRep)]
          show Except.ok ((rounding.apply net).value, vat.value, gross.value) = _
          rw [hvalue, hvatValue, hgrossValue]

/-- A calculated line item says what it was calculated from, and adds up. -/
theorem tryCalculatedRun_eq_ok {name : String} {quantity : Decimal} {unit : String}
    {unitPrice : Decimal} {vatRate : VatRate} {rounding : Rounding} {item : LineItem}
    (h : tryCalculatedRun name quantity unit unitPrice vatRate rounding = .ok (.ok item)) :
    item = new name quantity unit unitPrice vatRate item.netValue item.vatValue item.grossValue
      ∧ item.grossValue.value = item.netValue.value + item.vatValue.value := by
  obtain ⟨net, hnet, -⟩ := Number.exactMul_spec unitPrice quantity
  unfold tryCalculatedRun at h
  rw [hnet, ok_bind] at h
  cases net with
  | none => exact absurd (Except.ok.inj h) (by simp)
  | some net =>
    dsimp only at h
    cases hp : percentage vatRate with
    | error e => rw [hp] at h; exact absurd (Except.ok.inj h) (by simp)
    | ok rate =>
      obtain ⟨vat, hvat⟩ := vatOf_total (rounding.apply net) rounding rate
      rw [hp] at h
      dsimp only at h
      rw [hvat, ok_bind] at h
      cases vat with
      | none => exact absurd (Except.ok.inj h) (by simp)
      | some vat =>
        obtain ⟨gross, hgross, hsum⟩ := Number.exactAdd_spec (rounding.apply net) vat
        dsimp only at h
        rw [hgross, ok_bind] at h
        cases gross with
        | none => exact absurd (Except.ok.inj h) (by simp)
        | some gross =>
          obtain rfl := Except.ok.inj (Except.ok.inj h)
          exact ⟨rfl, hsum⟩

theorem run_of_tryCalculated {name : String} {quantity : Decimal} {unit : String}
    {unitPrice : Decimal} {vatRate : VatRate} {rounding : Rounding}
    {r : Except ArithmeticError LineItem}
    (h : tryCalculated name quantity unit unitPrice vatRate rounding = r) :
    tryCalculatedRun name quantity unit unitPrice vatRate rounding = .ok r := by
  rw [← h]
  exact eq_ok_get _

/-- **Calculated lines are exact or refused**: whatever is multiplied, the run ends,
and with the values of the calculation on numbers or with the first step of it that no
decimal is. A token of the rate is a number exactly if it spells one. -/
theorem tryCalculated_exact [LawfulRustDecimal] (name : String) (quantity : Decimal)
    (unit : String) (unitPrice : Decimal) (vatRate : VatRate) (rounding : Rounding)
    (hsize : ∀ token, vatRate = .other token → token.utf8ByteSize < 2 ^ 62) :
    (∃ rate, vatRate.IsPercentage rate)
      ∧ ∀ rate, vatRate.IsPercentage rate →
        ∃ r, tryCalculatedRun name quantity unit unitPrice vatRate rounding = .ok r
          ∧ r.map values = Calculation.run unitPrice.value quantity.value rate rounding
          ∧ ∀ item, r = .ok item →
              item = new name quantity unit unitPrice vatRate item.netValue item.vatValue
                item.grossValue := by
  refine ⟨exists_isPercentage vatRate, fun rate hrate => ?_⟩
  obtain ⟨r, hr, hvalues⟩ := run_tryCalculated name quantity unit unitPrice vatRate rounding hrate
    (fun token htoken => (Text.length_le_utf8ByteSize token).trans_lt (hsize token htoken))
  refine ⟨r, hr, hvalues, ?_⟩
  rintro item rfl
  exact (tryCalculatedRun_eq_ok hr).1

omit [RustDecimal] in
/-- Two at ten, and a rate in white space: the VAT of 5.4 is rounded, the sum is not. -/
theorem tryCalculated_exact_twenty :
    ∃ r, @tryCalculatedRun RustDecimal.exact "" ⟨false, 2, 0, by decide, by decide⟩ ""
        ⟨false, 10, 0, by decide, by decide⟩ (.other " 27 ") (.scale 0) = .ok r
      ∧ r.map values = .ok (20, 5, 25) := by
  have hrate : (VatRate.other " 27 ").IsPercentage (some 27) := by
    let n : Number.Numeral :=
      ⟨.none, ['2', '7'], none, none, List.all_eq_true.mp rfl, fun _ h => absurd h List.not_mem_nil,
        by decide⟩
    have hvalue : n.value = 27 := by
      show scaled 10 (1 * (27 : ℕ)) ((0 : ℕ) - 0) = 27
      norm_num [scaled]
    rw [← hvalue]
    exact .numeral " 27 " n (by decide)
  have hrep : ∀ (q : ℚ) c s, Decimal.format.Fits c s → q = number 10 c s → Decimal.Representable q :=
    fun q c s h hq => ⟨c, s, h, hq⟩
  obtain ⟨-, hrun⟩ := @tryCalculated_exact RustDecimal.exact RustDecimal.lawful_exact ""
    ⟨false, 2, 0, by decide, by decide⟩ "" ⟨false, 10, 0, by decide, by decide⟩ (.other " 27 ")
    (.scale 0) (fun token htoken => by rw [← VatRate.other.inj htoken]; decide)
  obtain ⟨r, hr, hvalues, -⟩ := hrun (some 27) hrate
  refine ⟨r, hr, hvalues.trans ?_⟩
  have hproduct : (⟨false, 10, 0, by decide, by decide⟩ : Decimal).value
      * (⟨false, 2, 0, by decide, by decide⟩ : Decimal).value = 20 := by
    show number 10 10 0 * number 10 2 0 = 20
    norm_num [number]
  have hnet : (Rounding.scale 0).round 20 = 20 :=
    roundAt_of_isMultiple (by decide) ⟨20, by norm_num [number]⟩
  have hvat : Calculation.vat 20 (.scale 0) (some 27) = 5 := by
    show roundAt 10 0 (20 * 27 / 100) = 5
    have hfloor : ⌊(20 * 27 / 100 * 1 + 1 / 2 : ℚ)⌋ = 5 := by
      rw [Int.floor_eq_iff]
      norm_num
    rw [roundAt, pow_zero, roundHalfAway, if_neg (by norm_num), hfloor]
    norm_num [number]
  unfold Calculation.run
  dsimp only
  rw [hproduct, hnet, hvat, if_neg, if_neg, if_neg, if_neg]
  · norm_num
  · exact not_not.mpr (hrep _ 25 0 (by decide) (by norm_num [number]))
  · exact not_not.mpr ⟨hrep _ 540 0 (by decide) (by norm_num [number]),
      hrep _ 54 1 (by decide) (by norm_num [number])⟩
  · rintro ⟨q, hq, hnot⟩
    refine hnot (hrep q 27 0 (by decide) ?_)
    rw [← Option.some.inj hq]
    norm_num [number]
  · exact not_not.mpr (hrep _ 20 0 (by decide) (by norm_num [number]))

end Steps

end LineItem

end Szamlazz
