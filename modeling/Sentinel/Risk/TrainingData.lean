import Mathlib.Order.Monotone.Defs
import Sentinel.Risk.Extractor
import Sentinel.Risk.Verdict

/-!
# The training data

`generate_realistic_data`: NumPy draws whole columns, one population after the
other, and parts of some columns are drawn again for the contaminated slices. The
draws are arbitrary within the support of their distributions. Columns are computed
in one float format and stored in a narrower one.
-/

namespace Sentinel.Risk

/-- Rounding to the numbers of a float format. -/
structure FloatFormat where
  round : ℚ → ℚ
  mono : Monotone round
  exact : ∀ count : Nat, count ≤ 2 ^ 24 → round count = count
  idem : ∀ value, round (round value) = round value

/-- What `RNG.gamma` returns. -/
structure GammaDraw (double : FloatFormat) where
  value : Nat → ℚ
  isFloat : ∀ row, double.round (value row) = value row
  nonneg : ∀ row, 0 ≤ value row

/-- What `RNG.uniform(low, high)` returns. -/
structure UniformDraw (double : FloatFormat) (low high : ℚ) where
  value : Nat → ℚ
  low_le : ∀ row, double.round low ≤ value row
  le_high : ∀ row, value row ≤ double.round high

abbrev NormalDraw := Nat → ℚ

abbrev PoissonDraw := Nat → Nat

/-- What `RNG.choice([0.0, 1.0])` returns. -/
abbrev ChoiceDraw := Nat → Bool

structure LegitDraws (double : FloatFormat) where
  attempts1m : GammaDraw double
  spread5m : UniformDraw double 1.2 3.5
  spread15m : UniformDraw double 1.1 2.8
  spread1h : UniformDraw double 1.1 2.5
  failures1m : PoissonDraw
  failures5m : PoissonDraw
  failures15m : PoissonDraw
  failures1h : PoissonDraw
  newIp : ChoiceDraw
  newDevice : ChoiceDraw
  newCountry : ChoiceDraw
  ageDays : UniformDraw double 30 3000
  mfa : ChoiceDraw
  emailVerified : ChoiceDraw
  hour : NormalDraw
  vpn : ChoiceDraw
  dc : ChoiceDraw
  distUsual : GammaDraw double
  uniqIps1h : NormalDraw
  uniqIps24h : PoissonDraw
  uniqDev24h : PoissonDraw
  newCountries7d : PoissonDraw
  hours : GammaDraw double
  ipRep : NormalDraw
  asn : NormalDraw
  proxy : UniformDraw double (-0.2) 0.2

/-- The draws for the risky-looking slice of the legitimate population. -/
structure RiskyDraws (double : FloatFormat) where
  newCountry : ChoiceDraw
  distUsual : GammaDraw double
  vpn : ChoiceDraw
  dc : ChoiceDraw
  failures5m : PoissonDraw
  hour : UniformDraw double 0 24
  uniqIps1h : PoissonDraw
  uniqIps24h : PoissonDraw
  uniqDev24h : PoissonDraw
  hours : UniformDraw double 0 2
  ipRep : NormalDraw
  asn : NormalDraw

structure FraudDraws (double : FloatFormat) where
  attempts1m : GammaDraw double
  spread5m : UniformDraw double 1.5 4.0
  spread15m : UniformDraw double 1.2 3.0
  spread1h : UniformDraw double 1.2 3.0
  failures1m : PoissonDraw
  failures5m : PoissonDraw
  failures15m : PoissonDraw
  failures1h : PoissonDraw
  newIp : ChoiceDraw
  newDevice : ChoiceDraw
  newCountry : ChoiceDraw
  ageDays : UniformDraw double 0 200
  mfa : ChoiceDraw
  emailVerified : ChoiceDraw
  hour : UniformDraw double 0 24
  vpn : ChoiceDraw
  tor : ChoiceDraw
  dc : ChoiceDraw
  bot : ChoiceDraw
  headless : ChoiceDraw
  distUsual : GammaDraw double
  uniqIps1h : PoissonDraw
  uniqIps24h : PoissonDraw
  uniqDev : PoissonDraw
  newCountries : PoissonDraw
  hours : UniformDraw double 0 2
  ipRep : NormalDraw
  asn : NormalDraw
  proxy : UniformDraw double (-0.2) 0.2

/-- The draws for the patient slice of the fraud population. -/
structure PatientDraws (double : FloatFormat) where
  newIp : ChoiceDraw
  newDevice : ChoiceDraw
  distUsual : GammaDraw double
  hour : NormalDraw
  failures1m : PoissonDraw
  failures5m : PoissonDraw
  failures15m : PoissonDraw
  failures1h : PoissonDraw
  attempts1m : GammaDraw double
  spread5m : UniformDraw double 1.2 3.0
  spread15m : UniformDraw double 1.1 2.5
  spread1h : UniformDraw double 1.1 2.2
  mfa : ChoiceDraw
  ageDays : UniformDraw double 30 2500
  uniqIps1h : PoissonDraw
  uniqIps24h : PoissonDraw
  uniqDev : PoissonDraw
  newCountries : PoissonDraw
  hours : GammaDraw double
  ipRep : NormalDraw
  asn : NormalDraw

/-- All that a run draws. -/
structure Draws (double : FloatFormat) where
  legit : LegitDraws double
  risky : RiskyDraws double
  fraud : FraudDraws double
  patient : PatientDraws double
  dayOfWeek : Nat → Fin 7

/-- The columns of one population before they are stored. -/
structure Population where
  attempts1m : Nat → ℚ
  attempts5m : Nat → ℚ
  attempts15m : Nat → ℚ
  attempts1h : Nat → ℚ
  failures1m : Nat → Nat
  failures5m : Nat → Nat
  failures15m : Nat → Nat
  failures1h : Nat → Nat
  uniqIps1h : Nat → Nat
  uniqIps24h : Nat → Nat
  uniqDev : Nat → Nat
  newCountries : Nat → Nat
  newIp : Nat → Bool
  newDevice : Nat → Bool
  newCountry : Nat → Bool
  ageDays : Nat → ℚ
  mfa : Nat → Bool
  emailVerified : Nat → Bool
  hours : Nat → ℚ
  hour : Nat → ℚ
  offHours : Nat → Bool
  vpn : Nat → Bool
  tor : Nat → Bool
  dc : Nat → Bool
  proxy : Nat → Bool
  distUsual : Nat → ℚ
  ipRep : Nat → ℚ
  asn : Nat → ℚ
  bot : Nat → Bool
  headless : Nat → Bool

namespace TrainingData

/-- `np.clip` -/
def clip (low high value : ℚ) : ℚ := min (max value low) high

/-- `int(value)` -/
def truncate (value : ℚ) : Int := if 0 ≤ value then ⌊value⌋ else ⌈value⌉

/-- `column[start:stop] = drawn` -/
def overwrite {α : Type} (start stop : Nat) (drawn column : Nat → α) (row : Nat) : α :=
  if start ≤ row ∧ row < stop then drawn (row - start) else column row

def beyondHours (hour : ℚ) : Bool := hour < 6 || 23 < hour

/-- `1.0 if flag else 0.0` -/
def ofFlag (flag : Bool) : ℚ := if flag then 1 else 0

structure Sizes where
  nLegit : Nat
  nFraud : Nat
  nPatient : Nat
  nRiskyLegit : Nat

section Columns

variable (double : FloatFormat)

/-- The columns that are multiplied with uniform draws. -/
def times (column spread : Nat → ℚ) (row : Nat) : ℚ := double.round (column row * spread row)

/-- The sizes of the populations and their slices; a negative one raises. -/
def sizes (nSamples : Nat) : PyFloat → Option Sizes
  | .finite fraudRate =>
      let nFraud := truncate (double.round (double.round nSamples * fraudRate))
      let nLegit := nSamples - nFraud
      if 0 ≤ nFraud ∧ 0 ≤ nLegit then
        some {
          nLegit := nLegit.toNat
          nFraud := nFraud.toNat
          nPatient := (truncate (double.round (double.round nFraud * double.round 0.18))).toNat
          nRiskyLegit := (truncate (double.round (double.round nLegit * double.round 0.08))).toNat }
      else none
  | .posInf | .negInf | .nan => none

def legitPopulation (legit : LegitDraws double) (risky : RiskyDraws double) (nRiskyLegit : Nat) :
    Population :=
  let attempts5m := times double legit.attempts1m.value legit.spread5m.value
  let attempts15m := times double attempts5m legit.spread15m.value
  let hour := fun row => clip 0 23 (legit.hour row)
  let vpn := overwrite 0 nRiskyLegit risky.vpn legit.vpn
  let uniqIps1h := fun row => (truncate (max (legit.uniqIps1h row) 0)).toNat
  { attempts1m := legit.attempts1m.value
    attempts5m
    attempts15m
    attempts1h := times double attempts15m legit.spread1h.value
    failures1m := legit.failures1m
    failures5m := overwrite 0 nRiskyLegit risky.failures5m legit.failures5m
    failures15m := legit.failures15m
    failures1h := legit.failures1h
    uniqIps1h := overwrite 0 nRiskyLegit risky.uniqIps1h uniqIps1h
    uniqIps24h := overwrite 0 nRiskyLegit risky.uniqIps24h fun row =>
      uniqIps1h row + legit.uniqIps24h row
    uniqDev := overwrite 0 nRiskyLegit risky.uniqDev24h legit.uniqDev24h
    newCountries := legit.newCountries7d
    newIp := overwrite 0 nRiskyLegit (fun _ => true) legit.newIp
    newDevice := overwrite 0 nRiskyLegit (fun _ => true) legit.newDevice
    newCountry := overwrite 0 nRiskyLegit risky.newCountry legit.newCountry
    ageDays := legit.ageDays.value
    mfa := legit.mfa
    emailVerified := legit.emailVerified
    hours := overwrite 0 nRiskyLegit risky.hours.value legit.hours.value
    hour := overwrite 0 nRiskyLegit risky.hour.value hour
    -- computed before the slice of the hours is drawn again
    offHours := fun row => beyondHours (hour row)
    vpn
    tor := fun _ => false
    dc := overwrite 0 nRiskyLegit risky.dc legit.dc
    proxy := fun row =>
      double.round 0.8 < double.round (ofFlag (vpn row) + legit.proxy.value row)
    distUsual := overwrite 0 nRiskyLegit risky.distUsual.value legit.distUsual.value
    ipRep := overwrite 0 nRiskyLegit (fun row => clip 0 100 (risky.ipRep row)) fun row =>
      clip 0 100 (legit.ipRep row)
    asn := overwrite 0 nRiskyLegit (fun row => clip 0 100 (risky.asn row)) fun row =>
      clip 0 100 (legit.asn row)
    bot := fun _ => false
    headless := fun _ => false }

def fraudPopulation (fraud : FraudDraws double) (patient : PatientDraws double)
    (nFraud nPatient : Nat) : Population :=
  let start := nFraud - nPatient
  let fraud5m := times double fraud.attempts1m.value fraud.spread5m.value
  let fraud15m := times double fraud5m fraud.spread15m.value
  let patient5m := times double patient.attempts1m.value patient.spread5m.value
  let patient15m := times double patient5m patient.spread15m.value
  let vpn := overwrite start nFraud (fun _ => false) fraud.vpn
  { attempts1m := overwrite start nFraud patient.attempts1m.value fraud.attempts1m.value
    attempts5m := overwrite start nFraud patient5m fraud5m
    attempts15m := overwrite start nFraud patient15m fraud15m
    attempts1h := overwrite start nFraud (times double patient15m patient.spread1h.value)
      (times double fraud15m fraud.spread1h.value)
    failures1m := overwrite start nFraud patient.failures1m fraud.failures1m
    failures5m := overwrite start nFraud patient.failures5m fraud.failures5m
    failures15m := overwrite start nFraud patient.failures15m fraud.failures15m
    failures1h := overwrite start nFraud patient.failures1h fraud.failures1h
    uniqIps1h := overwrite start nFraud patient.uniqIps1h fraud.uniqIps1h
    uniqIps24h := overwrite start nFraud patient.uniqIps24h fraud.uniqIps24h
    uniqDev := overwrite start nFraud patient.uniqDev fraud.uniqDev
    newCountries := overwrite start nFraud patient.newCountries fraud.newCountries
    newIp := overwrite start nFraud patient.newIp fraud.newIp
    newDevice := overwrite start nFraud patient.newDevice fraud.newDevice
    newCountry := overwrite start nFraud (fun _ => false) fraud.newCountry
    ageDays := overwrite start nFraud patient.ageDays.value fraud.ageDays.value
    mfa := overwrite start nFraud patient.mfa fraud.mfa
    emailVerified := fraud.emailVerified
    hours := overwrite start nFraud patient.hours.value fraud.hours.value
    hour := overwrite start nFraud (fun row => clip 0 23 (patient.hour row)) fraud.hour.value
    -- computed before the slice of the hours is drawn again
    offHours := fun row => beyondHours (fraud.hour.value row)
    vpn
    tor := overwrite start nFraud (fun _ => false) fraud.tor
    dc := overwrite start nFraud (fun _ => false) fraud.dc
    proxy := fun row =>
      double.round 0.4 < double.round (ofFlag (vpn row) + fraud.proxy.value row)
    distUsual := overwrite start nFraud patient.distUsual.value fraud.distUsual.value
    ipRep := overwrite start nFraud (fun row => clip 0 100 (patient.ipRep row)) fun row =>
      clip 0 100 (fraud.ipRep row)
    asn := overwrite start nFraud (fun row => clip 0 100 (patient.asn row)) fun row =>
      clip 0 100 (fraud.asn row)
    bot := overwrite start nFraud (fun _ => false) fraud.bot
    headless := overwrite start nFraud (fun _ => false) fraud.headless }

end Columns

/-- A row of `np.zeros`. -/
def zeros : Features where
  typicalLoginHourMean := 0
  typicalLoginHourStd := 0
  ipReputationScore := 0
  asnRiskScore := 0
  isActive := 0
  deviceTrustScore := 0
  hourOfDay := 0
  dayOfWeek := 0
  daysToNearestHoliday := 0

/-- The entries that `fill` stores in row `row` of its population, and the weekday. -/
def fillRow (single : FloatFormat) (population : Population) (dayOfWeek : Nat) (row : Nat) :
    Features :=
  let stored := fun (value : ℚ) => PyFloat.finite (single.round value)
  let counted := fun (count : Nat) => stored count
  let flagged := fun (flag : Bool) => stored (ofFlag flag)
  { zeros with
    vLoginAttempts1m := stored (population.attempts1m row)
    vLoginAttempts5m := stored (population.attempts5m row)
    vLoginAttempts15m := stored (population.attempts15m row)
    vLoginAttempts1h := stored (population.attempts1h row)
    vLoginFailures1m := counted (population.failures1m row)
    vLoginFailures5m := counted (population.failures5m row)
    vLoginFailures15m := counted (population.failures15m row)
    vLoginFailures1h := counted (population.failures1h row)
    vUniqueIps1h := counted (population.uniqIps1h row)
    vUniqueIps24h := counted (population.uniqIps24h row)
    vUniqueDevices24h := counted (population.uniqDev row)
    vNewCountries7d := counted (population.newCountries row)
    isNewIp := flagged (population.newIp row)
    isNewDevice := flagged (population.newDevice row)
    isNewCountry := flagged (population.newCountry row)
    accountAgeDays := stored (population.ageDays row)
    hasMfaEnabled := flagged (population.mfa row)
    emailVerified := flagged (population.emailVerified row)
    hoursSinceLastLogin := stored (population.hours row)
    typicalLoginHourMean := stored (population.hour row)
    ipIsVpn := flagged (population.vpn row)
    ipIsTor := flagged (population.tor row)
    ipIsDatacenter := flagged (population.dc row)
    ipIsProxy := flagged (population.proxy row)
    geoDistanceFromUsualKm := stored (population.distUsual row)
    ipReputationScore := stored (population.ipRep row)
    asnRiskScore := stored (population.asn row)
    isBotUserAgent := flagged (population.bot row)
    isHeadlessBrowser := flagged (population.headless row)
    hourOfDay := stored (population.hour row)
    dayOfWeek := counted dayOfWeek
    isOffHours := flagged (population.offHours row)
    isWeekend := flagged (5 ≤ single.round dayOfWeek) }

structure Dataset where
  rows : List Features
  labels : List Nat

/-- Row `index` of the matrix. -/
def row (double single : FloatFormat) (draws : Draws double) (sizes : Sizes) (index : Nat) :
    Features :=
  if index < sizes.nLegit then
    fillRow single (legitPopulation double draws.legit draws.risky sizes.nRiskyLegit)
      (draws.dayOfWeek index) index
  else
    fillRow single (fraudPopulation double draws.fraud draws.patient sizes.nFraud sizes.nPatient)
      (draws.dayOfWeek index) (index - sizes.nLegit)

/-- `X` and `y` -/
def dataset (double single : FloatFormat) (draws : Draws double) (nSamples : Nat) (sizes : Sizes) :
    Dataset where
  rows := (List.range nSamples).map (row double single draws sizes)
  labels := (List.range nSamples).map fun index => if index < sizes.nLegit then 0 else 1

def generateRealisticData (double single : FloatFormat) (draws : Draws double) (nSamples : Nat)
    (fraudRate : PyFloat) : Option Dataset :=
  (sizes double nSamples fraudRate).map (dataset double single draws nSamples)

end TrainingData

/-- The relations between the features of one actor. -/
structure ServingRelations (features : Features) : Prop where
  attempts5m : features.vLoginAttempts1m.atMost features.vLoginAttempts5m
  attempts15m : features.vLoginAttempts5m.atMost features.vLoginAttempts15m
  attempts1h : features.vLoginAttempts15m.atMost features.vLoginAttempts1h
  failures5m : features.vLoginFailures1m.atMost features.vLoginFailures5m
  failures15m : features.vLoginFailures5m.atMost features.vLoginFailures15m
  failures1h : features.vLoginFailures15m.atMost features.vLoginFailures1h
  uniqueIps : features.vUniqueIps1h.atMost features.vUniqueIps24h
  offHours : features.isOffHours = 1 ↔
    (features.hourOfDay.lessThan 6 || PyFloat.lessThan 23 features.hourOfDay)
  weekend : features.isWeekend = 1 ↔ PyFloat.atMost 5 features.dayOfWeek

/-- Finite floats are ordered as numbers. -/
theorem atMost_finite {value other : ℚ} :
    (PyFloat.finite value).atMost (.finite other) = true ↔ value ≤ other := by
  simp only [PyFloat.atMost, decide_eq_true_eq]

/-- A flag is one where it is true. -/
theorem ofBool_eq_one {flag : Bool} : PyFloat.ofBool flag = 1 ↔ flag = true := by
  cases flag <;> decide

/-- Counts are compared as numbers. -/
theorem lessThan_ofCount {count other : Nat} :
    (PyFloat.ofCount count).lessThan (.ofCount other) = decide (count < other) := by
  simp only [PyFloat.lessThan, PyFloat.ofCount, Nat.cast_lt]

theorem atMost_ofCount {count other : Nat} :
    (PyFloat.ofCount count).atMost (.ofCount other) = true ↔ count ≤ other :=
  atMost_finite.trans Nat.cast_le

/-- The temporal block of the extractor. -/
theorem withClock_relations (clock : Int) (features : Features) :
    let read := FeatureExtractor.withClock clock features
    (read.isOffHours = 1 ↔ (read.hourOfDay.lessThan 6 || PyFloat.lessThan 23 read.hourOfDay)) ∧
      (read.isWeekend = 1 ↔ PyFloat.atMost 5 read.dayOfWeek) := by
  constructor
  · refine ofBool_eq_one.trans ?_
    change _ ↔ ((PyFloat.ofCount (FeatureExtractor.hourOf clock)).lessThan (.ofCount 6) ||
      (PyFloat.ofCount 23).lessThan (.ofCount (FeatureExtractor.hourOf clock))) = true
    rw [lessThan_ofCount, lessThan_ofCount]
  · exact ofBool_eq_one.trans (decide_eq_true_iff.trans atMost_ofCount.symm)

namespace FloatFormat

variable {double single : FloatFormat}

theorem round_zero : double.round 0 = 0 := by exact_mod_cast double.exact 0 (by decide)

theorem round_one : double.round 1 = 1 := by exact_mod_cast double.exact 1 (by decide)

end FloatFormat

namespace TrainingData

variable {double single : FloatFormat}

/-- A column of floats that are not negative. -/
structure Amounts (double : FloatFormat) (column : Nat → ℚ) : Prop where
  isFloat : ∀ row, double.round (column row) = column row
  nonneg : ∀ row, 0 ≤ column row

/-- A gamma draw is a column of amounts. -/
theorem amounts_gamma (draw : GammaDraw double) : Amounts double draw.value :=
  ⟨draw.isFloat, draw.nonneg⟩

/-- A draw between bounds of which the lower is at least one. -/
theorem one_le_spread {low high : ℚ} (above : 1 ≤ low) (spread : UniformDraw double low high)
    (row : Nat) : 1 ≤ spread.value row :=
  calc (1 : ℚ) = double.round 1 := FloatFormat.round_one.symm
    _ ≤ double.round low := double.mono above
    _ ≤ spread.value row := spread.low_le row

/-- A window is not below the shorter one that it was made of. -/
theorem le_times {column : Nat → ℚ} (amounts : Amounts double column) {low high : ℚ}
    (above : 1 ≤ low) (spread : UniformDraw double low high) (row : Nat) :
    column row ≤ times double column spread.value row :=
  calc column row = double.round (column row) := (amounts.isFloat row).symm
    _ ≤ double.round (column row * spread.value row) :=
      double.mono (le_mul_of_one_le_right (amounts.nonneg row) (one_le_spread above spread row))

theorem amounts_times {column : Nat → ℚ} (amounts : Amounts double column) {low high : ℚ}
    (above : 1 ≤ low) (spread : UniformDraw double low high) :
    Amounts double (times double column spread.value) :=
  ⟨fun _ => double.idem _, fun row =>
    (amounts.nonneg row).trans (le_times amounts above spread row)⟩

/-- What is true of both draws is true of the column. -/
theorem overwrite_rel {α β : Type} {related : α → β → Prop} {start stop : Nat}
    {drawn column : Nat → α} {drawnToo columnToo : Nat → β}
    (inSlice : ∀ row, related (drawn row) (drawnToo row))
    (elsewhere : ∀ row, related (column row) (columnToo row)) (row : Nat) :
    related (overwrite start stop drawn column row)
      (overwrite start stop drawnToo columnToo row) := by
  unfold overwrite
  split
  · exact inSlice _
  · exact elsewhere _

/-- A stored flag is one where it was true. -/
theorem stored_flag (flag : Bool) :
    PyFloat.finite (single.round (ofFlag flag)) = 1 ↔ flag = true := by
  cases flag
  · rw [ofFlag, if_neg Bool.false_ne_true, FloatFormat.round_zero]
    decide
  · rw [ofFlag, if_pos rfl, FloatFormat.round_one]
    exact iff_of_true rfl rfl

/-- The stored counts are in order. -/
def InOrder (single : FloatFormat) (count other : Nat) : Prop :=
  single.round count ≤ single.round other

/-- The draws that a row keeps: the windows of the failures are in order, and the hour
lies where the hour lay that `is_off_hours` was derived from. -/
structure RowFits (single : FloatFormat) (past1m past5m past15m past1h : Nat)
    (derivedFrom hour : ℚ) : Prop where
  failures5m : InOrder single past1m past5m
  failures15m : InOrder single past5m past15m
  failures1h : InOrder single past15m past1h
  offHours : beyondHours derivedFrom = beyondHours (single.round hour)

/-- What the relations come to in a row. -/
theorem fillRow_relations {population : Population} {row : Nat} {derivedFrom : ℚ} (dayOfWeek : Nat)
    (attempts5m : population.attempts1m row ≤ population.attempts5m row)
    (attempts15m : population.attempts5m row ≤ population.attempts15m row)
    (attempts1h : population.attempts15m row ≤ population.attempts1h row)
    (derived : population.offHours row = beyondHours derivedFrom) :
    ServingRelations (fillRow single population dayOfWeek row) ↔
      RowFits single (population.failures1m row) (population.failures5m row)
        (population.failures15m row) (population.failures1h row) derivedFrom
        (population.hour row) ∧
      InOrder single (population.uniqIps1h row) (population.uniqIps24h row) := by
  have hours : (fillRow single population dayOfWeek row).isOffHours = 1 ↔
      beyondHours derivedFrom = true := by
    rw [← derived]
    exact stored_flag _
  constructor
  · intro relations
    refine ⟨⟨atMost_finite.mp relations.failures5m, atMost_finite.mp relations.failures15m,
      atMost_finite.mp relations.failures1h, ?_⟩, atMost_finite.mp relations.uniqueIps⟩
    exact Bool.eq_iff_iff.mpr (hours.symm.trans relations.offHours)
  · rintro ⟨fits, unique⟩
    exact {
      attempts5m := atMost_finite.mpr (single.mono attempts5m)
      attempts15m := atMost_finite.mpr (single.mono attempts15m)
      attempts1h := atMost_finite.mpr (single.mono attempts1h)
      failures5m := atMost_finite.mpr fits.failures5m
      failures15m := atMost_finite.mpr fits.failures15m
      failures1h := atMost_finite.mpr fits.failures1h
      uniqueIps := atMost_finite.mpr unique
      offHours := hours.trans (Bool.eq_iff_iff.mp fits.offHours)
      weekend := by
        refine (stored_flag _).trans ?_
        rw [decide_eq_true_eq]
        exact atMost_finite.symm }

section Rows

variable (single) (draws : Draws double) (sizes : Sizes)

/-- The draws that a row of the legitimate population keeps fit. -/
def LegitFits (row : Nat) : Prop :=
  RowFits single (draws.legit.failures1m row)
    (overwrite 0 sizes.nRiskyLegit draws.risky.failures5m draws.legit.failures5m row)
    (draws.legit.failures15m row) (draws.legit.failures1h row) (clip 0 23 (draws.legit.hour row))
    (overwrite 0 sizes.nRiskyLegit draws.risky.hour.value (fun row =>
      clip 0 23 (draws.legit.hour row)) row) ∧
  (row < sizes.nRiskyLegit → InOrder single (draws.risky.uniqIps1h row) (draws.risky.uniqIps24h row))

/-- The draws that a row of the fraud population keeps fit. -/
def FraudFits (row : Nat) : Prop :=
  let kept := fun (patient fraud : Nat → Nat) =>
    overwrite (sizes.nFraud - sizes.nPatient) sizes.nFraud patient fraud row
  RowFits single (kept draws.patient.failures1m draws.fraud.failures1m)
    (kept draws.patient.failures5m draws.fraud.failures5m)
    (kept draws.patient.failures15m draws.fraud.failures15m)
    (kept draws.patient.failures1h draws.fraud.failures1h) (draws.fraud.hour.value row)
    (overwrite (sizes.nFraud - sizes.nPatient) sizes.nFraud (fun row =>
      clip 0 23 (draws.patient.hour row)) draws.fraud.hour.value row) ∧
  InOrder single (kept draws.patient.uniqIps1h draws.fraud.uniqIps1h)
    (kept draws.patient.uniqIps24h draws.fraud.uniqIps24h)

structure Fit : Prop where
  legit : ∀ row, row < sizes.nLegit → LegitFits single draws sizes row
  fraud : ∀ row, row < sizes.nFraud → FraudFits single draws sizes row

/-- The windows of the login attempts grow in the legitimate population. -/
theorem legit_attempts (legit : LegitDraws double) (risky : RiskyDraws double)
    (nRiskyLegit row : Nat) :
    let population := legitPopulation double legit risky nRiskyLegit
    population.attempts1m row ≤ population.attempts5m row ∧
      population.attempts5m row ≤ population.attempts15m row ∧
      population.attempts15m row ≤ population.attempts1h row := by
  have legit1m := amounts_gamma legit.attempts1m
  have legit5m := amounts_times legit1m (by norm_num) legit.spread5m
  have legit15m := amounts_times legit5m (by norm_num) legit.spread15m
  exact ⟨le_times legit1m (by norm_num) legit.spread5m row,
    le_times legit5m (by norm_num) legit.spread15m row,
    le_times legit15m (by norm_num) legit.spread1h row⟩

/-- And in both parts of the fraud population. -/
theorem fraud_attempts (fraud : FraudDraws double) (patient : PatientDraws double)
    (nFraud nPatient row : Nat) :
    let population := fraudPopulation double fraud patient nFraud nPatient
    population.attempts1m row ≤ population.attempts5m row ∧
      population.attempts5m row ≤ population.attempts15m row ∧
      population.attempts15m row ≤ population.attempts1h row := by
  have fraud1m := amounts_gamma fraud.attempts1m
  have fraud5m := amounts_times fraud1m (by norm_num) fraud.spread5m
  have fraud15m := amounts_times fraud5m (by norm_num) fraud.spread15m
  have patient1m := amounts_gamma patient.attempts1m
  have patient5m := amounts_times patient1m (by norm_num) patient.spread5m
  have patient15m := amounts_times patient5m (by norm_num) patient.spread15m
  exact ⟨
    overwrite_rel (le_times patient1m (by norm_num) patient.spread5m)
      (le_times fraud1m (by norm_num) fraud.spread5m) row,
    overwrite_rel (le_times patient5m (by norm_num) patient.spread15m)
      (le_times fraud5m (by norm_num) fraud.spread15m) row,
    overwrite_rel (le_times patient15m (by norm_num) patient.spread1h)
      (le_times fraud15m (by norm_num) fraud.spread1h) row⟩

/-- A legitimate row keeps the serving relations exactly when its draws fit. -/
theorem legit_relations (dayOfWeek row : Nat) :
    ServingRelations (fillRow single
      (legitPopulation double draws.legit draws.risky sizes.nRiskyLegit) dayOfWeek row) ↔
      LegitFits single draws sizes row := by
  obtain ⟨attempts5m, attempts15m, attempts1h⟩ :=
    legit_attempts draws.legit draws.risky sizes.nRiskyLegit row
  have relations := @fillRow_relations single _ row (clip 0 23 (draws.legit.hour row)) dayOfWeek
    attempts5m attempts15m attempts1h rfl
  have uniqueIps : InOrder single
      (overwrite 0 sizes.nRiskyLegit draws.risky.uniqIps1h (fun row =>
        (truncate (max (draws.legit.uniqIps1h row) 0)).toNat) row)
      (overwrite 0 sizes.nRiskyLegit draws.risky.uniqIps24h (fun row =>
        (truncate (max (draws.legit.uniqIps1h row) 0)).toNat + draws.legit.uniqIps24h row) row) ↔
      (row < sizes.nRiskyLegit →
        InOrder single (draws.risky.uniqIps1h row) (draws.risky.uniqIps24h row)) := by
    by_cases risky : row < sizes.nRiskyLegit
    · simp only [overwrite, Nat.zero_le, risky, and_self, if_true, Nat.sub_zero, true_implies]
    · simp only [overwrite, risky, and_false, if_false, false_implies, iff_true]
      exact single.mono (Nat.cast_le.mpr (Nat.le_add_right _ _))
  rw [LegitFits, ← uniqueIps]
  exact relations

theorem fraud_relations (dayOfWeek row : Nat) :
    ServingRelations (fillRow single
      (fraudPopulation double draws.fraud draws.patient sizes.nFraud sizes.nPatient) dayOfWeek
        row) ↔ FraudFits single draws sizes row := by
  obtain ⟨attempts5m, attempts15m, attempts1h⟩ :=
    fraud_attempts draws.fraud draws.patient sizes.nFraud sizes.nPatient row
  exact @fillRow_relations single _ row (draws.fraud.hour.value row) dayOfWeek attempts5m
    attempts15m attempts1h rfl

end Rows

/-- The populations make up the samples. -/
theorem sizes_sum {nSamples : Nat} {fraudRate : PyFloat} {made : Sizes}
    (divided : sizes double nSamples fraudRate = some made) :
    nSamples = made.nLegit + made.nFraud := by
  cases fraudRate with
  | finite rate =>
      simp only [sizes] at divided
      split at divided
      · cases divided
        dsimp only
        omega
      · cases divided
  | posInf | negInf | nan => cases divided

theorem row_relations (draws : Draws double) {nSamples : Nat} {made : Sizes}
    (sum : nSamples = made.nLegit + made.nFraud) :
    (∀ index, index < nSamples → ServingRelations (row double single draws made index)) ↔
      Fit single draws made := by
  constructor
  · intro relations
    constructor
    · intro index below
      have here := relations index (by omega)
      rw [row, if_pos below] at here
      exact (legit_relations single draws made _ index).mp here
    · intro index below
      have here := relations (made.nLegit + index) (by omega)
      rw [row, if_neg (by omega), Nat.add_sub_cancel_left] at here
      exact (fraud_relations single draws made _ index).mp here
  · intro fit index below
    unfold row
    split
    · rename_i legit
      exact (legit_relations single draws made _ index).mpr (fit.legit index legit)
    · exact (fraud_relations single draws made _ _).mpr (fit.fraud _ (by omega))

end TrainingData

open TrainingData in
/-- Every row of the training data looks like a row of the extractor exactly when the
draws fit in every row. -/
theorem trainingRows_iff (double single : FloatFormat) (draws : Draws double) (nSamples : Nat)
    (fraudRate : PyFloat) :
    (∀ dataset, generateRealisticData double single draws nSamples fraudRate = some dataset →
        ∀ features ∈ dataset.rows, ServingRelations features) ↔
      ∀ made, sizes double nSamples fraudRate = some made → Fit single draws made := by
  have rows : ∀ made, sizes double nSamples fraudRate = some made →
      ((∀ features ∈ (dataset double single draws nSamples made).rows,
        ServingRelations features) ↔ Fit single draws made) := by
    intro made divided
    rw [← row_relations draws (sizes_sum divided)]
    simp only [dataset, List.mem_map, List.mem_range, forall_exists_index, and_imp,
      forall_apply_eq_imp_iff₂]
  constructor
  · intro relations made divided
    refine (rows made divided).mp (relations _ ?_)
    rw [generateRealisticData, divided]
    rfl
  · intro fit dataset made
    obtain ⟨sizes, divided, rfl⟩ := Option.map_eq_some_iff.mp made
    exact (rows sizes divided).mpr (fit sizes divided)

section Unordered

variable (double : FloatFormat)

def gammaOne : GammaDraw double :=
  ⟨fun _ => 1, fun _ => FloatFormat.round_one, fun _ => zero_le_one⟩

/-- Every draw is the lower bound. -/
def lowest {low high : ℚ} (bounds : low ≤ high) : UniformDraw double low high :=
  ⟨fun _ => double.round low, fun _ => le_rfl, fun _ => double.mono bounds⟩

def noFlags : ChoiceDraw := fun _ => false

/-- One failure is drawn for the last minute, and none for the last five. -/
def legitUnordered : LegitDraws double where
  attempts1m := gammaOne double
  spread5m := lowest double (by norm_num)
  spread15m := lowest double (by norm_num)
  spread1h := lowest double (by norm_num)
  failures1m _ := 1
  failures5m _ := 0
  failures15m _ := 1
  failures1h _ := 3
  newIp := noFlags
  newDevice := noFlags
  newCountry := noFlags
  ageDays := lowest double (by norm_num)
  mfa _ := true
  emailVerified _ := true
  hour _ := 13
  vpn := noFlags
  dc := noFlags
  distUsual := gammaOne double
  uniqIps1h _ := 0
  uniqIps24h _ := 1
  uniqDev24h _ := 1
  newCountries7d _ := 0
  hours := gammaOne double
  ipRep _ := 18
  asn _ := 25
  proxy := lowest double (by norm_num)

/-- No failure in five minutes is drawn for the risky-looking slice either; the other
draws reach no row of a sample without fraud and of one row. -/
def unorderedDraws : Draws double where
  legit := legitUnordered double
  risky := ⟨noFlags, gammaOne double, noFlags, noFlags, fun _ => 0, lowest double (by norm_num),
    fun _ => 3, fun _ => 7, fun _ => 3, lowest double (by norm_num), fun _ => 50, fun _ => 55⟩
  fraud := ⟨gammaOne double, lowest double (by norm_num), lowest double (by norm_num),
    lowest double (by norm_num), fun _ => 2, fun _ => 9, fun _ => 18, fun _ => 45, noFlags,
    noFlags, noFlags, lowest double (by norm_num), noFlags, noFlags,
    lowest double (by norm_num), noFlags, noFlags, noFlags, noFlags, noFlags, gammaOne double,
    fun _ => 3, fun _ => 9, fun _ => 4, fun _ => 1, lowest double (by norm_num), fun _ => 62,
    fun _ => 70, lowest double (by norm_num)⟩
  patient := ⟨noFlags, noFlags, gammaOne double, fun _ => 13, fun _ => 0, fun _ => 0, fun _ => 1,
    fun _ => 3, gammaOne double, lowest double (by norm_num), lowest double (by norm_num),
    lowest double (by norm_num), noFlags, lowest double (by norm_num), fun _ => 0, fun _ => 1,
    fun _ => 1, fun _ => 0, gammaOne double, fun _ => 22, fun _ => 28⟩
  dayOfWeek _ := 0

/-- A sample of one row without fraud is one row of the legitimate population, whatever
the format. -/
theorem sizes_one : ∃ made, TrainingData.sizes double 1 0 = some made ∧ made.nLegit = 1 := by
  have noFraud : TrainingData.truncate (double.round (double.round (1 : Nat) * (0 : Nat))) = 0 := by
    rw [Nat.cast_zero, mul_zero, FloatFormat.round_zero]
    rfl
  refine ⟨_, if_pos ?_, ?_⟩
  · rw [noFraud]
    decide
  · dsimp only
    rw [noFraud]
    rfl

end Unordered

open TrainingData in
/-- In no formats of the columns do all draws give such rows: one draw has more failures in
one minute than in five. -/
theorem trainingRows_fail :
    ¬ ∃ double single : FloatFormat,
      ∀ (draws : Draws double) (nSamples : Nat) (fraudRate : PyFloat) (dataset : Dataset),
        generateRealisticData double single draws nSamples fraudRate = some dataset →
          ∀ features ∈ dataset.rows, ServingRelations features := by
  rintro ⟨double, single, always⟩
  obtain ⟨made, divided, one⟩ := sizes_one double
  have generated : generateRealisticData double single (unorderedDraws double) 1 0 =
      some (dataset double single (unorderedDraws double) 1 made) := by
    rw [generateRealisticData, divided]
    rfl
  have relations : ServingRelations (row double single (unorderedDraws double) made 0) :=
    always _ 1 0 _ generated _ (List.mem_map_of_mem (List.mem_range.mpr one_pos))
  rw [row, if_pos (one ▸ one_pos)] at relations
  have fits := ((legit_relations single (unorderedDraws double) made _ 0).mp relations).1
  -- in the slice or not, no failure in five minutes was drawn
  have five : overwrite 0 made.nRiskyLegit (unorderedDraws double).risky.failures5m
      (unorderedDraws double).legit.failures5m 0 = 0 := ite_self 0
  have ordered : single.round (1 : Nat) ≤ single.round (0 : Nat) := five ▸ fits.failures5m
  rw [single.exact 1 (by decide), single.exact 0 (by decide)] at ordered
  exact absurd ordered (by decide)

end Sentinel.Risk
