import XccdfPolicy.Benchmark
import Mathlib.Algebra.Order.BigOperators.Group.List
import Mathlib.Algebra.Order.Field.Basic
import Mathlib.Tactic.Linarith

/-!
# Scores

`xccdf_item_get_default_score` and `xccdf_item_get_flat_score` walk the Benchmark tree and read
each Rule's result in the TestResult; `xccdf_policy_get_score` turns them into the scores of
the four XCCDF scoring systems. Arithmetic is taken exactly, over `ℚ`.

A Rule counts when it has a RuleResult whose result is not NotSelected, NotApplicable,
Informational or NotChecked. Groups are walked whatever their selection.

* `flatScore_eq_flatSums`: with non-negative Rule weights, the flat score of the Benchmark is
  the weight of the counted Rules that passed over the weight of all counted Rules, although
  the walk skips every child whose weight is `0`.
* `getScore_flat`: hence `0 ≤ score ≤ maximum`, the flat-unweighted maximum is the number of
  counted Rules, and the absolute score is `1` exactly when every counted Rule of positive
  weight passed.
* `defaultScore_mem_Icc_and_eq_hundred`: with non-negative weights, the default score of the
  Benchmark and of each of its Groups lies in `[0, 100]`; the Benchmark scores `100` when some
  Rule is counted and every counted Rule passed and has positive weight, as has every Group
  above it. A counted Rule of weight `0` loses its pass (`defaultScore_zeroWeightBenchmark`).
* `getScore_append_shadowed`: the scores read each Rule's first RuleResult only, so a further
  RuleResult of the same Rule, as multi-check adds, changes none of them.
-/

namespace Xccdf

/-- Modelled from the spec: `xccdf_result_get_rule_result_by_id` is not under src/; the first
RuleResult of the TestResult for the Rule id. -/
def XccdfResult.getRuleResultById (testResult : XccdfResult) (id : String) :
    Option XccdfRuleResult :=
  testResult.ruleResults.find? (·.idref = id)

/-- The results the scores ignore: NotSelected, NotApplicable, Informational and
NotChecked. -/
def isIgnoredResult (result : Int) : Bool :=
  result = XccdfTestResultType.notSelected.toInt ∨
    result = XccdfTestResultType.notApplicable.toInt ∨
    result = XccdfTestResultType.informational.toInt ∨
    result = XccdfTestResultType.notChecked.toInt

/-- The results the scores count as passing: Pass and Fixed. -/
def isPassResult (result : Int) : Bool :=
  result = XccdfTestResultType.pass.toInt ∨ result = XccdfTestResultType.fixed.toInt

/-- `xccdf_item_get_weight` on a Rule or Group. A Value has no weight, and no score reads
one. -/
def XccdfItem.weight : XccdfItem → ℚ
  | .rule r => r.weight
  | .group g _ => g.weight
  | .value _ => 0

/-! ## Flat scores -/

/-- `struct xccdf_flat_score`. -/
@[ext]
structure XccdfFlatScore where
  score : ℚ
  weight : ℚ

/-- The weight a flat score gives a Rule: `1` unweighted, its weight otherwise. -/
def flatWeight (unweighted : Bool) (rule : XccdfRule) : ℚ :=
  if unweighted then 1 else rule.weight

mutual
/-- `xccdf_item_get_flat_score(item, test_result, unweighted)`: `NULL` for a Rule without a
RuleResult or with an ignored result, and for a Value. -/
def xccdfItemGetFlatScore (testResult : XccdfResult) (unweighted : Bool) :
    XccdfItem → Option XccdfFlatScore
  | .rule r =>
    match testResult.getRuleResultById r.id with
    | none => none
    | some ruleResult =>
      if isIgnoredResult ruleResult.result then none
      else
        some { score := if isPassResult ruleResult.result then flatWeight unweighted r else 0,
               weight := flatWeight unweighted r }
  | .group _ content => some (flatScoreContent testResult unweighted ⟨0, 0⟩ content)
  | .value _ => none

/-- The child loop of `xccdf_item_get_flat_score` from the running `score`: a child without a
score, or of weight `0`, is skipped; the others add their score and weight. -/
def flatScoreContent (testResult : XccdfResult) (unweighted : Bool) (score : XccdfFlatScore) :
    List XccdfItem → XccdfFlatScore
  | [] => score
  | child :: children =>
    let score :=
      match xccdfItemGetFlatScore testResult unweighted child with
      | none => score
      | some chScore =>
        if chScore.weight = 0 then score
        else { score := score.score + chScore.score, weight := score.weight + chScore.weight }
    flatScoreContent testResult unweighted score children
end

/-- `xccdf_item_get_flat_score` on the Benchmark: the loop over its content. -/
def XccdfBenchmark.flatScore (benchmark : XccdfBenchmark) (testResult : XccdfResult)
    (unweighted : Bool) : XccdfFlatScore :=
  flatScoreContent testResult unweighted ⟨0, 0⟩ benchmark.content

/-! ## Default scores -/

/-- `struct xccdf_default_score`. A Rule's `accumulator` is left unset by the source and read
by nobody; it is `0` here. -/
structure XccdfDefaultScore where
  count : Int
  score : ℚ
  accumulator : ℚ
  weightScore : ℚ

mutual
/-- `xccdf_item_get_default_score(item, test_result)`: a counted Rule scores `100` when it
passed and `0` otherwise; a Group averages its children's weighted scores by their weights. -/
def xccdfItemGetDefaultScore (testResult : XccdfResult) :
    XccdfItem → Option XccdfDefaultScore
  | .rule r =>
    match testResult.getRuleResultById r.id with
    | none => none
    | some ruleResult =>
      if isIgnoredResult ruleResult.result then none
      else
        let score : ℚ := if isPassResult ruleResult.result then 100 else 0
        some { count := 1, score := score, accumulator := 0, weightScore := score * r.weight }
  | .group g content =>
    let loop := defaultScoreContent testResult ⟨0, 0, 0, 0⟩ content
    let score := if loop.count ≠ 0 ∧ loop.accumulator ≠ 0 then loop.score / loop.accumulator
      else loop.score
    some { loop with score := score, weightScore := score * g.weight }
  | .value _ => none

/-- The child loop of `xccdf_item_get_default_score`: a child without a score, or with count
`0`, is skipped; the others add their weighted score, one to the count, and their weight to
the accumulator. -/
def defaultScoreContent (testResult : XccdfResult) (score : XccdfDefaultScore) :
    List XccdfItem → XccdfDefaultScore
  | [] => score
  | child :: children =>
    let score :=
      match xccdfItemGetDefaultScore testResult child with
      | none => score
      | some chScore =>
        if chScore.count = 0 then score
        else { score with score := score.score + chScore.weightScore, count := score.count + 1,
                          accumulator := score.accumulator + child.weight }
    defaultScoreContent testResult score children
end

/-- `xccdf_item_get_default_score` on the Benchmark: its normalised score (the Benchmark's
weighted score is read by nobody). -/
def XccdfBenchmark.defaultScore (benchmark : XccdfBenchmark) (testResult : XccdfResult) : ℚ :=
  let loop := defaultScoreContent testResult ⟨0, 0, 0, 0⟩ benchmark.content
  if loop.count ≠ 0 ∧ loop.accumulator ≠ 0 then loop.score / loop.accumulator else loop.score

/-! ## `xccdf_policy_get_score` -/

/-- `struct xccdf_score`: the scoring system, the score, and the maximum when the system sets
one. -/
structure XccdfScore where
  system : String
  score : ℚ
  maximum : Option ℚ

/-- `xccdf_policy_get_score(policy, test_result, scsystem)` on the policy's Benchmark: `NULL`
for an unknown scoring system. -/
def xccdfPolicyGetScore (benchmark : XccdfBenchmark) (testResult : XccdfResult)
    (scsystem : String) : Option XccdfScore :=
  if scsystem = "urn:xccdf:scoring:default" then
    some { system := scsystem, score := benchmark.defaultScore testResult, maximum := none }
  else if scsystem = "urn:xccdf:scoring:flat" then
    let s := benchmark.flatScore testResult false
    some { system := scsystem, score := s.score, maximum := some s.weight }
  else if scsystem = "urn:xccdf:scoring:flat-unweighted" then
    let s := benchmark.flatScore testResult true
    some { system := scsystem, score := s.score, maximum := some s.weight }
  else if scsystem = "urn:xccdf:scoring:absolute" then
    let s := benchmark.flatScore testResult false
    some { system := scsystem, score := if s.score = s.weight then 1 else 0,
           maximum := some s.weight }
  else none

/-! ## The flat score as a sum over Rules -/

/-- The Rule has a RuleResult whose result the scores count. -/
def isCounted (testResult : XccdfResult) (rule : XccdfRule) : Bool :=
  match testResult.getRuleResultById rule.id with
  | some ruleResult => !isIgnoredResult ruleResult.result
  | none => false

/-- The Rule's RuleResult is Pass or Fixed. -/
def hasPassed (testResult : XccdfResult) (rule : XccdfRule) : Bool :=
  match testResult.getRuleResultById rule.id with
  | some ruleResult => isPassResult ruleResult.result
  | none => false

/-- `isCounted` with the four ignored results written out. -/
theorem isCounted_eq_any (testResult : XccdfResult) (rule : XccdfRule) :
    isCounted testResult rule = (testResult.getRuleResultById rule.id).any fun ruleResult =>
      ruleResult.result ∉ [XccdfTestResultType.notSelected.toInt,
        XccdfTestResultType.notApplicable.toInt, XccdfTestResultType.informational.toInt,
        XccdfTestResultType.notChecked.toInt] := by
  unfold isCounted
  cases testResult.getRuleResultById rule.id <;> simp [isIgnoredResult]

/-- `hasPassed` with the two passing results written out. -/
theorem hasPassed_eq_any (testResult : XccdfResult) (rule : XccdfRule) :
    hasPassed testResult rule = (testResult.getRuleResultById rule.id).any fun ruleResult =>
      ruleResult.result ∈ [XccdfTestResultType.pass.toInt, XccdfTestResultType.fixed.toInt] := by
  unfold hasPassed
  cases testResult.getRuleResultById rule.id <;> simp [isPassResult]

/-- The counted Rules of the Benchmark, in document order. -/
def XccdfBenchmark.countedRules (benchmark : XccdfBenchmark) (testResult : XccdfResult) :
    List XccdfRule :=
  (benchmark.rulePaths.map (·.1)).filter (isCounted testResult)

/-- The flat score of a list of Rules as the spec states it: the weight of the counted Rules
that passed, and the weight of all counted Rules. -/
def flatSums (testResult : XccdfResult) (unweighted : Bool) (rules : List XccdfRule) :
    XccdfFlatScore :=
  let counted := rules.filter (isCounted testResult)
  { score := ((counted.filter (hasPassed testResult)).map (flatWeight unweighted)).sum,
    weight := (counted.map (flatWeight unweighted)).sum }

@[simp]
theorem flatSums_nil (testResult : XccdfResult) (unweighted : Bool) :
    flatSums testResult unweighted [] = ⟨0, 0⟩ := rfl

theorem flatSums_append (testResult : XccdfResult) (unweighted : Bool)
    (rules rules' : List XccdfRule) :
    flatSums testResult unweighted (rules ++ rules') =
      ⟨(flatSums testResult unweighted rules).score + (flatSums testResult unweighted rules').score,
        (flatSums testResult unweighted rules).weight +
          (flatSums testResult unweighted rules').weight⟩ := by
  simp [flatSums, List.filter_append]

@[simp]
theorem flatWeight_true : flatWeight true = fun _ => 1 := rfl

@[simp]
theorem flatWeight_false : flatWeight false = (·.weight) := rfl

section NonnegWeights

variable {testResult : XccdfResult} {unweighted : Bool} {rules : List XccdfRule}

theorem flatWeight_nonneg {rule : XccdfRule} (h : 0 ≤ rule.weight) :
    0 ≤ flatWeight unweighted rule := by
  cases unweighted <;> simp [flatWeight, h]

variable (hw : ∀ rule ∈ rules, 0 ≤ rule.weight)
include hw

theorem flatSums_score_nonneg : 0 ≤ (flatSums testResult unweighted rules).score :=
  List.sum_nonneg fun x hx => by
    obtain ⟨rule, hrule, rfl⟩ := List.mem_map.mp hx
    exact flatWeight_nonneg (hw rule (List.mem_of_mem_filter (List.mem_of_mem_filter hrule)))

theorem flatSums_score_le :
    (flatSums testResult unweighted rules).score ≤ (flatSums testResult unweighted rules).weight :=
  ((List.filter_sublist _).map _).sum_le_sum fun x hx => by
    obtain ⟨rule, hrule, rfl⟩ := List.mem_map.mp hx
    exact flatWeight_nonneg (hw rule (List.mem_of_mem_filter hrule))

end NonnegWeights

/-- What a child adds to its parent's flat score: nothing without a score or of weight `0`. -/
def flatContribution : Option XccdfFlatScore → XccdfFlatScore
  | none => ⟨0, 0⟩
  | some s => if s.weight = 0 then ⟨0, 0⟩ else s

/-- One step of the child loop adds the child's contribution. -/
theorem flatScoreContent_cons (testResult : XccdfResult) (unweighted : Bool)
    (score : XccdfFlatScore) (item : XccdfItem) (items : List XccdfItem) :
    flatScoreContent testResult unweighted score (item :: items) =
      flatScoreContent testResult unweighted
        ⟨score.score + (flatContribution (xccdfItemGetFlatScore testResult unweighted item)).score,
          score.weight +
            (flatContribution (xccdfItemGetFlatScore testResult unweighted item)).weight⟩
        items := by
  rw [flatScoreContent]
  congr 1
  cases xccdfItemGetFlatScore testResult unweighted item with
  | none => simp [flatContribution]
  | some chScore => by_cases h : chScore.weight = 0 <;> simp [flatContribution, h]

theorem flatContribution_rule (testResult : XccdfResult) (unweighted : Bool) (r : XccdfRule) :
    flatContribution (xccdfItemGetFlatScore testResult unweighted (.rule r)) =
      flatSums testResult unweighted [r] := by
  rcases h : testResult.getRuleResultById r.id with _ | ruleResult
  · simp [xccdfItemGetFlatScore, flatSums, isCounted, flatContribution, h]
  · by_cases hign : isIgnoredResult ruleResult.result <;>
    by_cases hw : flatWeight unweighted r = 0 <;>
    by_cases hpass : isPassResult ruleResult.result <;>
      simp [xccdfItemGetFlatScore, flatSums, isCounted, hasPassed, flatContribution, h, hign, hw,
        hpass]

mutual
/-- With non-negative Rule weights, an item adds to its parent's flat score the sums over its
Rules, although a child of weight `0` is skipped. -/
theorem flatContribution_item (testResult : XccdfResult) (unweighted : Bool) :
    ∀ item : XccdfItem, (∀ p ∈ item.rulePaths, 0 ≤ p.1.weight) →
      flatContribution (xccdfItemGetFlatScore testResult unweighted item) =
        flatSums testResult unweighted (item.rulePaths.map (·.1))
  | .rule r, _ => by simpa [XccdfItem.rulePaths] using flatContribution_rule testResult unweighted r
  | .group g content, hw => by
    have hw' : ∀ p ∈ XccdfItem.listRulePaths content, 0 ≤ p.1.weight := fun p hp =>
      hw (p.1, g :: p.2) (by simp only [XccdfItem.rulePaths]; exact List.mem_map_of_mem _ hp)
    have hcontent := flatScoreContent_eq testResult unweighted content ⟨0, 0⟩ hw'
    have hrules : (XccdfItem.rulePaths (.group g content)).map (·.1) =
        (XccdfItem.listRulePaths content).map (·.1) := by
      simp [XccdfItem.rulePaths, Function.comp_def]
    have hnonneg : ∀ rule ∈ (XccdfItem.listRulePaths content).map (·.1), 0 ≤ rule.weight := by
      simpa using hw'
    simp only [xccdfItemGetFlatScore, flatContribution, hcontent, hrules, zero_add]
    split
    · rename_i hzero
      have hle : (flatSums testResult unweighted _).score ≤ _ := flatSums_score_le hnonneg
      have hge : 0 ≤ (flatSums testResult unweighted _).score := flatSums_score_nonneg hnonneg
      ext
      · simp only; linarith
      · exact hzero.symm
    · rfl
  | .value _, _ => rfl

/-- `flatContribution_item` over a content list, from the running score `score`. -/
theorem flatScoreContent_eq (testResult : XccdfResult) (unweighted : Bool) :
    ∀ (items : List XccdfItem) (score : XccdfFlatScore),
      (∀ p ∈ XccdfItem.listRulePaths items, 0 ≤ p.1.weight) →
      flatScoreContent testResult unweighted score items =
        ⟨score.score + (flatSums testResult unweighted
            ((XccdfItem.listRulePaths items).map (·.1))).score,
          score.weight + (flatSums testResult unweighted
            ((XccdfItem.listRulePaths items).map (·.1))).weight⟩
  | [], score, _ => by simp [flatScoreContent, XccdfItem.listRulePaths]
  | item :: items, score, hw => by
    simp only [XccdfItem.listRulePaths, List.mem_append] at hw
    have hitem := flatContribution_item testResult unweighted item fun p hp => hw p (.inl hp)
    rw [flatScoreContent_cons, flatScoreContent_eq testResult unweighted items _
      fun p hp => hw p (.inr hp), hitem, XccdfItem.listRulePaths, List.map_append,
      flatSums_append]
    ext <;> simp only [add_assoc]
end

/-- A sum of non-negative terms over the elements satisfying `p` is the whole sum exactly when
every element of positive term satisfies `p`. -/
theorem sum_map_filter_eq_sum_iff {α : Type} (l : List α) (p : α → Bool) (f : α → ℚ)
    (hf : ∀ x ∈ l, 0 ≤ f x) :
    ((l.filter p).map f).sum = (l.map f).sum ↔ ∀ x ∈ l, 0 < f x → p x = true := by
  induction l with
  | nil => simp
  | cons x xs ih =>
    have hxs : ∀ y ∈ xs, 0 ≤ f y := fun y hy => hf y (List.mem_cons_of_mem _ hy)
    have hle : ((xs.filter p).map f).sum ≤ (xs.map f).sum :=
      ((List.filter_sublist _).map _).sum_le_sum fun y hy => by
        obtain ⟨z, hz, rfl⟩ := List.mem_map.mp hy
        exact hxs z hz
    have hx := hf x (List.mem_cons_self _ _)
    by_cases hpx : p x = true
    · simp [List.filter_cons_of_pos hpx, ih hxs, hpx]
    · simp only [List.filter_cons_of_neg hpx, List.map_cons, List.sum_cons, List.forall_mem_cons,
        ← ih hxs]
      constructor
      · intro h
        exact ⟨fun hpos => absurd hpos (by linarith), by linarith⟩
      · rintro ⟨h1, h2⟩
        have : f x = 0 := le_antisymm (not_lt.mp fun h => hpx (h1 h)) hx
        simp [this, h2]

/-- With non-negative Rule weights, the flat score of the Benchmark is the weight of the
counted Rules that passed over the weight of all counted Rules. -/
theorem flatScore_eq_flatSums (benchmark : XccdfBenchmark) (testResult : XccdfResult)
    (hw : ∀ p ∈ benchmark.rulePaths, 0 ≤ p.1.weight) (unweighted : Bool) :
    benchmark.flatScore testResult unweighted =
      flatSums testResult unweighted (benchmark.rulePaths.map (·.1)) := by
  rw [XccdfBenchmark.flatScore, flatScoreContent_eq testResult unweighted _ _ hw]
  simp [XccdfBenchmark.rulePaths]

/-- With non-negative Rule weights, the flat score of the Benchmark is the weight of the
counted Rules that passed over the weight of all counted Rules, a Rule counting when it has a
RuleResult that is not NotSelected, NotApplicable, Informational or NotChecked, and passing when
that RuleResult is Pass or Fixed; hence `0 ≤ score ≤ maximum`, the flat-unweighted maximum is
the number of counted Rules, and the absolute score is `1` exactly when every counted Rule of
positive weight passed. -/
theorem getScore_flat (benchmark : XccdfBenchmark) (testResult : XccdfResult)
    (hw : ∀ p ∈ benchmark.rulePaths, 0 ≤ p.1.weight) (unweighted : Bool) :
    let counted := (benchmark.rulePaths.map (·.1)).filter fun rule =>
      (testResult.getRuleResultById rule.id).any fun ruleResult =>
        ruleResult.result ∉ [XccdfTestResultType.notSelected.toInt,
          XccdfTestResultType.notApplicable.toInt, XccdfTestResultType.informational.toInt,
          XccdfTestResultType.notChecked.toInt]
    let passed := fun rule : XccdfRule =>
      (testResult.getRuleResultById rule.id).any fun ruleResult =>
        ruleResult.result ∈ [XccdfTestResultType.pass.toInt, XccdfTestResultType.fixed.toInt]
    let weight := fun rule : XccdfRule => if unweighted then (1 : ℚ) else rule.weight
    benchmark.flatScore testResult unweighted =
        ⟨((counted.filter passed).map weight).sum, (counted.map weight).sum⟩ ∧
      0 ≤ (benchmark.flatScore testResult unweighted).score ∧
      (benchmark.flatScore testResult unweighted).score ≤
        (benchmark.flatScore testResult unweighted).weight ∧
      (xccdfPolicyGetScore benchmark testResult "urn:xccdf:scoring:flat-unweighted").bind
          (·.maximum) = some counted.length ∧
      ((xccdfPolicyGetScore benchmark testResult "urn:xccdf:scoring:absolute").map (·.score) =
          some 1 ↔
        ∀ rule ∈ counted, 0 < rule.weight → passed rule = true) := by
  intro counted passed weight
  have hcounted : counted = benchmark.countedRules testResult :=
    congrArg (List.filter · _) (funext fun rule => (isCounted_eq_any testResult rule).symm)
  have hpassed : passed = hasPassed testResult := funext fun rule =>
    (hasPassed_eq_any testResult rule).symm
  have hweight : weight = flatWeight unweighted := rfl
  have hflat := flatScore_eq_flatSums benchmark testResult hw
  have hnonneg : ∀ rule ∈ benchmark.rulePaths.map (·.1), 0 ≤ rule.weight := by simpa using hw
  rw [hcounted, hpassed, hweight]
  refine ⟨hflat unweighted, hflat unweighted ▸ flatSums_score_nonneg hnonneg,
    hflat unweighted ▸ flatSums_score_le hnonneg, ?_, ?_⟩
  · simp [xccdfPolicyGetScore, hflat, flatSums, flatWeight, XccdfBenchmark.countedRules]
  · have habs := sum_map_filter_eq_sum_iff (benchmark.countedRules testResult)
      (hasPassed testResult) (flatWeight false) fun rule hrule =>
        flatWeight_nonneg (hnonneg rule (List.mem_of_mem_filter hrule))
    have hscore : (xccdfPolicyGetScore benchmark testResult "urn:xccdf:scoring:absolute").map
        (·.score) = some (if (benchmark.flatScore testResult false).score =
          (benchmark.flatScore testResult false).weight then 1 else 0) := by
      simp [xccdfPolicyGetScore]
    rw [hscore, hflat false]
    refine Iff.trans ?_ habs
    split_ifs with h
    · exact iff_of_true rfl h
    · exact iff_of_false (by simp) h

/-- A Rule of the given id and weight. -/
def weightedRule (id : String) (weight : ℚ) : XccdfRule :=
  { id := id, weight := weight, selected := true, platforms := [], role := 1, severity := 1,
    checks := [] }

/-- A Benchmark with a Group of Rules `r1` (weight `1`) and `r2` (weight `0`), then a Rule `r3`
(weight `2`). -/
def scoredBenchmark : XccdfBenchmark :=
  { id := "benchmark", platforms := [],
    content :=
      [.group ⟨"g", 1, true, []⟩ [.rule (weightedRule "r1" 1), .rule (weightedRule "r2" 0)],
        .rule (weightedRule "r3" 2)],
    plainTexts := [], schemaVersion := "1.2", cpeList := none, cpeLangModel := none,
    profiles := [], ids_nodup := by decide }

/-- A RuleResult of the given Rule id and result. -/
def resultFor (idref : String) (result : XccdfTestResultType) : XccdfRuleResult :=
  { idref := idref, result := result.toInt, weight := 1, severity := 1, role := 1, check := none,
    message := none }

/-- `r1` passed, `r2` failed and `r3` was not applicable. -/
def scoredResult : XccdfResult :=
  { id := "result",
    ruleResults := [resultFor "r1" .pass, resultFor "r2" .fail, resultFor "r3" .notApplicable] }

theorem getScore_flat_scoredBenchmark :
    (∀ p ∈ scoredBenchmark.rulePaths, 0 ≤ p.1.weight) ∧
      let counted := (scoredBenchmark.rulePaths.map (·.1)).filter fun rule =>
        (scoredResult.getRuleResultById rule.id).any fun ruleResult =>
          ruleResult.result ∉ [XccdfTestResultType.notSelected.toInt,
            XccdfTestResultType.notApplicable.toInt, XccdfTestResultType.informational.toInt,
            XccdfTestResultType.notChecked.toInt]
      let passed := fun rule : XccdfRule =>
        (scoredResult.getRuleResultById rule.id).any fun ruleResult =>
          ruleResult.result ∈ [XccdfTestResultType.pass.toInt, XccdfTestResultType.fixed.toInt]
      let weight := fun rule : XccdfRule => if false then (1 : ℚ) else rule.weight
      scoredBenchmark.flatScore scoredResult false =
          ⟨((counted.filter passed).map weight).sum, (counted.map weight).sum⟩ ∧
        0 ≤ (scoredBenchmark.flatScore scoredResult false).score ∧
        (scoredBenchmark.flatScore scoredResult false).score ≤
          (scoredBenchmark.flatScore scoredResult false).weight ∧
        (xccdfPolicyGetScore scoredBenchmark scoredResult "urn:xccdf:scoring:flat-unweighted").bind
            (·.maximum) = some counted.length ∧
        ((xccdfPolicyGetScore scoredBenchmark scoredResult "urn:xccdf:scoring:absolute").map
            (·.score) = some 1 ↔
          ∀ rule ∈ counted, 0 < rule.weight → passed rule = true) :=
  have hw : ∀ p ∈ scoredBenchmark.rulePaths, 0 ≤ p.1.weight := by
    simp [scoredBenchmark, XccdfBenchmark.rulePaths, XccdfItem.listRulePaths,
      XccdfItem.rulePaths, weightedRule]
  ⟨hw, getScore_flat scoredBenchmark scoredResult hw false⟩

/-! ## The default score's range -/

/-- An item's weight is the weight of the Rule, or of a Group on the path, of each of its Rule
paths. -/
theorem XccdfItem.weight_of_mem_rulePaths {P : ℚ → Prop} {item : XccdfItem}
    {p : XccdfRule × List XccdfGroup} (hp : p ∈ item.rulePaths) (hrule : P p.1.weight)
    (hgroups : ∀ g ∈ p.2, P g.weight) : P item.weight := by
  cases item with
  | rule r =>
    obtain rfl : p = (r, []) := by simpa [XccdfItem.rulePaths] using hp
    exact hrule
  | group g content =>
    obtain ⟨q, -, rfl⟩ : ∃ q ∈ XccdfItem.listRulePaths content, (q.1, g :: q.2) = p := by
      simpa [XccdfItem.rulePaths] using hp
    exact hgroups g (List.mem_cons_self _ _)
  | value v => simp [XccdfItem.rulePaths] at hp

/-- A scored item's weighted score is its score times its weight. -/
theorem xccdfItemGetDefaultScore_weightScore {testResult : XccdfResult} {item : XccdfItem}
    {sc : XccdfDefaultScore} (h : xccdfItemGetDefaultScore testResult item = some sc) :
    sc.weightScore = sc.score * item.weight := by
  cases item with
  | rule r =>
    simp only [xccdfItemGetDefaultScore] at h
    split at h
    · cases h
    · split at h <;> cases h
      rfl
  | group g content => cases h; rfl
  | value v => cases h

/-- The child loop counts one for each child whose score has a non-zero count. -/
theorem defaultScoreContent_count (testResult : XccdfResult) :
    ∀ (items : List XccdfItem) (score : XccdfDefaultScore),
      (defaultScoreContent testResult score items).count = score.count +
        (items.filter fun child =>
          (xccdfItemGetDefaultScore testResult child).any (·.count ≠ 0)).length
  | [], score => by simp [defaultScoreContent]
  | child :: children, score => by
    rw [defaultScoreContent, defaultScoreContent_count testResult children]
    rcases hch : xccdfItemGetDefaultScore testResult child with _ | chScore
    · simp [hch]
    · by_cases hc : chScore.count = 0
      · simp [hch, hc]
      · simp [hch, hc]
        omega

mutual
/-- An item's score has a non-zero count exactly when a Rule at or below it is counted. -/
theorem xccdfItemGetDefaultScore_counted (testResult : XccdfResult) :
    ∀ item : XccdfItem, (xccdfItemGetDefaultScore testResult item).any (·.count ≠ 0) =
      item.rulePaths.any (isCounted testResult ·.1)
  | .rule r => by
    rcases h : testResult.getRuleResultById r.id with _ | ruleResult
    · simp [xccdfItemGetDefaultScore, XccdfItem.rulePaths, isCounted, h]
    · by_cases hign : isIgnoredResult ruleResult.result <;>
        simp [xccdfItemGetDefaultScore, XccdfItem.rulePaths, isCounted, h, hign]
  | .group g content => by
    have hcontent := listDefaultScore_counted testResult content
    simp only [xccdfItemGetDefaultScore, Option.any_some, XccdfItem.rulePaths, List.any_map,
      Function.comp_def, defaultScoreContent_count] at hcontent ⊢
    rw [← hcontent]
    simp [List.filter_eq_nil_iff, List.any_eq]
  | .value _ => rfl

/-- `xccdfItemGetDefaultScore_counted` over a content list. -/
theorem listDefaultScore_counted (testResult : XccdfResult) :
    ∀ items : List XccdfItem,
      items.any (fun child => (xccdfItemGetDefaultScore testResult child).any (·.count ≠ 0)) =
        (XccdfItem.listRulePaths items).any (isCounted testResult ·.1)
  | [] => rfl
  | item :: items => by
    simp only [List.any_cons, XccdfItem.listRulePaths, List.any_append,
      xccdfItemGetDefaultScore_counted testResult item, listDefaultScore_counted testResult items]
end

/-- A score of non-zero count comes from a counted Rule at or below the item. -/
theorem exists_counted_of_count_ne_zero {testResult : XccdfResult} {item : XccdfItem}
    {sc : XccdfDefaultScore} (h : xccdfItemGetDefaultScore testResult item = some sc)
    (hc : sc.count ≠ 0) : ∃ p ∈ item.rulePaths, isCounted testResult p.1 = true := by
  have hcounted := xccdfItemGetDefaultScore_counted testResult item
  simp only [h, Option.any_some, hc, decide_not, decide_False, Bool.not_false] at hcounted
  exact List.any_eq_true.mp hcounted.symm

/-- An invariant of the running score that every counted child keeps holds after the child
loop. -/
theorem defaultScoreContent_invariant (testResult : XccdfResult) (P : XccdfDefaultScore → Prop) :
    ∀ (items : List XccdfItem) (score : XccdfDefaultScore), P score →
      (∀ child ∈ items, ∀ score chScore, xccdfItemGetDefaultScore testResult child = some chScore →
        chScore.count ≠ 0 → P score →
        P { score with score := score.score + chScore.weightScore, count := score.count + 1,
                       accumulator := score.accumulator + child.weight }) →
      P (defaultScoreContent testResult score items)
  | [], _, h0, _ => h0
  | child :: children, score, h0, hstep => by
    rw [defaultScoreContent]
    refine defaultScoreContent_invariant testResult P children _ ?_
      fun c hc => hstep c (List.mem_cons_of_mem _ hc)
    rcases hch : xccdfItemGetDefaultScore testResult child with _ | chScore
    · exact h0
    · dsimp only
      split_ifs with hc
      · exact h0
      · exact hstep child (List.mem_cons_self _ _) score chScore hch hc h0

/-- What keeps a default score in `[0, 100]`: the running sums stay within
`0 ≤ score ≤ 100 · accumulator`, and nothing is summed before the first counted child. -/
structure DefaultScoreBounded (score : XccdfDefaultScore) : Prop where
  count_nonneg : 0 ≤ score.count
  score_eq_zero : score.count = 0 → score.score = 0
  score_nonneg : 0 ≤ score.score
  score_le : score.score ≤ 100 * score.accumulator

theorem defaultScoreBounded_zero : DefaultScoreBounded ⟨0, 0, 0, 0⟩ :=
  ⟨le_rfl, fun _ => rfl, le_rfl, by norm_num⟩

/-- A counted child of non-negative weight and score in `[0, 100]` keeps the sums bounded. -/
theorem DefaultScoreBounded.addChild {score chScore : XccdfDefaultScore} {weight : ℚ}
    (h : DefaultScoreBounded score) (hweight : 0 ≤ weight)
    (hscore : chScore.score ∈ Set.Icc 0 100) (hws : chScore.weightScore = chScore.score * weight) :
    DefaultScoreBounded
      { score with score := score.score + chScore.weightScore, count := score.count + 1,
                   accumulator := score.accumulator + weight } where
  count_nonneg := by dsimp only; linarith [h.count_nonneg]
  score_eq_zero hc := by dsimp only at hc; linarith [h.count_nonneg]
  score_nonneg := by
    dsimp only
    rw [hws]
    exact add_nonneg h.score_nonneg (mul_nonneg hscore.1 hweight)
  score_le := by
    dsimp only
    rw [hws]
    nlinarith [h.score_le, mul_le_mul_of_nonneg_right hscore.2 hweight]

/-- Normalising bounded sums gives a score in `[0, 100]`. -/
theorem DefaultScoreBounded.normalised {score : XccdfDefaultScore} (h : DefaultScoreBounded score) :
    (if score.count ≠ 0 ∧ score.accumulator ≠ 0 then score.score / score.accumulator
      else score.score) ∈ Set.Icc 0 100 := by
  have hs := h.score_nonneg
  have hle := h.score_le
  split_ifs with hne
  · have hacc : 0 < score.accumulator := lt_of_le_of_ne (by linarith) (Ne.symm hne.2)
    exact ⟨div_nonneg hs hacc.le, (div_le_iff₀ hacc).2 (by linarith)⟩
  · have hzero : score.score = 0 := by
      by_cases hc : score.count = 0
      · exact h.score_eq_zero hc
      · have hacc : score.accumulator = 0 := by simpa [hc] using hne
        rw [hacc] at hle
        linarith
    rw [hzero]
    norm_num

/-- The child loop keeps its sums bounded when every counted child has a score in `[0, 100]`
and a non-negative weight. -/
theorem defaultScoreContent_bounded {testResult : XccdfResult} {items : List XccdfItem}
    (hchildren : ∀ child ∈ items, ∀ sc, xccdfItemGetDefaultScore testResult child = some sc →
      sc.count ≠ 0 → sc.score ∈ Set.Icc 0 100 ∧ 0 ≤ child.weight) :
    DefaultScoreBounded (defaultScoreContent testResult ⟨0, 0, 0, 0⟩ items) :=
  defaultScoreContent_invariant testResult _ items _ defaultScoreBounded_zero
    fun child hchild _ _ hch hc hbounded =>
      let ⟨hscore, hweight⟩ := hchildren child hchild _ hch hc
      hbounded.addChild hweight hscore (xccdfItemGetDefaultScore_weightScore hch)

mutual
/-- With non-negative weights, every default score of an item lies in `[0, 100]`. -/
theorem xccdfItemGetDefaultScore_mem_Icc (testResult : XccdfResult) :
    ∀ item : XccdfItem, (∀ p ∈ item.rulePaths, 0 ≤ p.1.weight ∧ ∀ g ∈ p.2, 0 ≤ g.weight) →
      ∀ sc, xccdfItemGetDefaultScore testResult item = some sc → sc.score ∈ Set.Icc 0 100
  | .rule r, _, sc, h => by
    simp only [xccdfItemGetDefaultScore] at h
    split at h
    · cases h
    · split at h <;> cases h
      split_ifs <;> norm_num
  | .group g content, hw, sc, h => by
    cases h
    have hw' : ∀ p ∈ XccdfItem.listRulePaths content, 0 ≤ p.1.weight ∧ ∀ g ∈ p.2, 0 ≤ g.weight :=
      fun p hp => (hw (p.1, g :: p.2) (List.mem_map_of_mem _ hp)).imp_right
        fun hg g' hg' => hg g' (List.mem_cons_of_mem _ hg')
    exact (defaultScoreContent_bounded (listDefaultScore_mem_Icc testResult content hw')).normalised
  | .value _, _, sc, h => by cases h

/-- `xccdfItemGetDefaultScore_mem_Icc` for each child of a content list, with the child's
weight non-negative when its score is counted. -/
theorem listDefaultScore_mem_Icc (testResult : XccdfResult) :
    ∀ items : List XccdfItem,
      (∀ p ∈ XccdfItem.listRulePaths items, 0 ≤ p.1.weight ∧ ∀ g ∈ p.2, 0 ≤ g.weight) →
      ∀ child ∈ items, ∀ sc, xccdfItemGetDefaultScore testResult child = some sc →
        sc.count ≠ 0 → sc.score ∈ Set.Icc 0 100 ∧ 0 ≤ child.weight
  | [], _ => by simp
  | item :: items, hw => by
    simp only [XccdfItem.listRulePaths, List.mem_append] at hw
    refine List.forall_mem_cons.2 ⟨fun sc h hc => ⟨?_, ?_⟩,
      listDefaultScore_mem_Icc testResult items fun p hp => hw p (.inr hp)⟩
    · exact xccdfItemGetDefaultScore_mem_Icc testResult item (fun p hp => hw p (.inl hp)) sc h
    · obtain ⟨p, hp, -⟩ := exists_counted_of_count_ne_zero h hc
      exact XccdfItem.weight_of_mem_rulePaths hp (hw p (.inl hp)).1 (hw p (.inl hp)).2
end

/-! ## The default score's maximum -/

/-- What makes a default score `100`: the running score is `100 · accumulator`, and the
accumulator is positive from the first counted child on. -/
structure DefaultScoreFull (score : XccdfDefaultScore) : Prop where
  count_nonneg : 0 ≤ score.count
  score_eq : score.score = 100 * score.accumulator
  accumulator_nonneg : 0 ≤ score.accumulator
  accumulator_pos : score.count ≠ 0 → 0 < score.accumulator

theorem defaultScoreFull_zero : DefaultScoreFull ⟨0, 0, 0, 0⟩ :=
  ⟨le_rfl, by norm_num, le_rfl, fun h => absurd rfl h⟩

/-- A counted child of positive weight and score `100` keeps the running score full. -/
theorem DefaultScoreFull.addChild {score chScore : XccdfDefaultScore} {weight : ℚ}
    (h : DefaultScoreFull score) (hweight : 0 < weight) (hscore : chScore.score = 100)
    (hws : chScore.weightScore = chScore.score * weight) :
    DefaultScoreFull
      { score with score := score.score + chScore.weightScore, count := score.count + 1,
                   accumulator := score.accumulator + weight } where
  count_nonneg := by dsimp only; linarith [h.count_nonneg]
  score_eq := by dsimp only; rw [hws, hscore, h.score_eq, mul_add]
  accumulator_nonneg := by dsimp only; linarith [h.accumulator_nonneg]
  accumulator_pos _ := by dsimp only; linarith [h.accumulator_nonneg]

/-- Normalising full sums of non-zero count gives `100`. -/
theorem DefaultScoreFull.normalised {score : XccdfDefaultScore} (h : DefaultScoreFull score)
    (hc : score.count ≠ 0) :
    (if score.count ≠ 0 ∧ score.accumulator ≠ 0 then score.score / score.accumulator
      else score.score) = 100 := by
  have hacc := h.accumulator_pos hc
  rw [if_pos ⟨hc, hacc.ne'⟩, h.score_eq, mul_div_assoc, div_self hacc.ne', mul_one]

/-- The child loop keeps its running score full when every counted child scores `100` and has
a positive weight. -/
theorem defaultScoreContent_full {testResult : XccdfResult} {items : List XccdfItem}
    (hchildren : ∀ child ∈ items, ∀ sc, xccdfItemGetDefaultScore testResult child = some sc →
      sc.count ≠ 0 → sc.score = 100 ∧ 0 < child.weight) :
    DefaultScoreFull (defaultScoreContent testResult ⟨0, 0, 0, 0⟩ items) :=
  defaultScoreContent_invariant testResult _ items _ defaultScoreFull_zero
    fun child hchild _ _ hch hc hfull =>
      let ⟨hscore, hweight⟩ := hchildren child hchild _ hch hc
      hfull.addChild hweight hscore (xccdfItemGetDefaultScore_weightScore hch)

mutual
/-- When every counted Rule at or below an item passed and has positive weight, as has every
Group above it, a score of non-zero count is `100`. -/
theorem xccdfItemGetDefaultScore_eq_hundred (testResult : XccdfResult) :
    ∀ item : XccdfItem, (∀ p ∈ item.rulePaths, isCounted testResult p.1 = true →
        hasPassed testResult p.1 = true ∧ 0 < p.1.weight ∧ ∀ g ∈ p.2, 0 < g.weight) →
      ∀ sc, xccdfItemGetDefaultScore testResult item = some sc → sc.count ≠ 0 → sc.score = 100
  | .rule r, hpass, sc, h, _ => by
    have hr := hpass (r, []) (List.mem_singleton_self _)
    simp only [xccdfItemGetDefaultScore] at h
    split at h
    · cases h
    · rename_i ruleResult hresult
      split at h
      · cases h
      · rename_i hign
        cases h
        have hpassed := (hr (by simp [isCounted, hresult, hign])).1
        simp only [hasPassed, hresult] at hpassed
        simp [hpassed]
  | .group g content, hpass, sc, h, hc => by
    cases h
    have hpass' : ∀ p ∈ XccdfItem.listRulePaths content, isCounted testResult p.1 = true →
        hasPassed testResult p.1 = true ∧ 0 < p.1.weight ∧ ∀ g ∈ p.2, 0 < g.weight :=
      fun p hp hcounted => (hpass (p.1, g :: p.2) (List.mem_map_of_mem _ hp) hcounted).imp_right
        fun hg => hg.imp_right fun hg g' hg' => hg g' (List.mem_cons_of_mem _ hg')
    exact (defaultScoreContent_full
      (listDefaultScore_eq_hundred testResult content hpass')).normalised hc
  | .value _, _, sc, h, _ => by cases h

/-- `xccdfItemGetDefaultScore_eq_hundred` for each child of a content list, with the child's
weight positive when its score is counted. -/
theorem listDefaultScore_eq_hundred (testResult : XccdfResult) :
    ∀ items : List XccdfItem,
      (∀ p ∈ XccdfItem.listRulePaths items, isCounted testResult p.1 = true →
        hasPassed testResult p.1 = true ∧ 0 < p.1.weight ∧ ∀ g ∈ p.2, 0 < g.weight) →
      ∀ child ∈ items, ∀ sc, xccdfItemGetDefaultScore testResult child = some sc →
        sc.count ≠ 0 → sc.score = 100 ∧ 0 < child.weight
  | [], _ => by simp
  | item :: items, hpass => by
    simp only [XccdfItem.listRulePaths, List.mem_append] at hpass
    refine List.forall_mem_cons.2 ⟨fun sc h hc => ⟨?_, ?_⟩,
      listDefaultScore_eq_hundred testResult items fun p hp => hpass p (.inr hp)⟩
    · exact xccdfItemGetDefaultScore_eq_hundred testResult item (fun p hp => hpass p (.inl hp))
        sc h hc
    · obtain ⟨p, hp, hcounted⟩ := exists_counted_of_count_ne_zero h hc
      have hpos := (hpass p (.inl hp) hcounted).2
      exact XccdfItem.weight_of_mem_rulePaths hp hpos.1 hpos.2
end

/-- The child loop of the Benchmark counts some child exactly when a Rule of the Benchmark is
counted. -/
theorem XccdfBenchmark.defaultScoreContent_count_ne_zero (benchmark : XccdfBenchmark)
    (testResult : XccdfResult) :
    (defaultScoreContent testResult ⟨0, 0, 0, 0⟩ benchmark.content).count ≠ 0 ↔
      ∃ p ∈ benchmark.rulePaths, isCounted testResult p.1 = true := by
  rw [defaultScoreContent_count, XccdfBenchmark.rulePaths, ← List.any_eq_true,
    ← listDefaultScore_counted]
  simp [List.filter_eq_nil_iff, List.any_eq]

/-- With non-negative weights, `xccdf_item_get_default_score` gives the Benchmark and every
Group of it a score in `[0, 100]`. The Benchmark's score is `100` when some Rule is counted and
every counted Rule passed and has positive weight, as has every Group above it: a counted Rule
of weight `0` adds `0` to its parent's score and nothing to its parent's weight, so its pass is
lost. -/
theorem defaultScore_mem_Icc_and_eq_hundred (benchmark : XccdfBenchmark)
    (testResult : XccdfResult)
    (hw : ∀ p ∈ benchmark.rulePaths, 0 ≤ p.1.weight ∧ ∀ g ∈ p.2, 0 ≤ g.weight) :
    let counted := fun rule : XccdfRule =>
      (testResult.getRuleResultById rule.id).any fun ruleResult =>
        ruleResult.result ∉ [XccdfTestResultType.notSelected.toInt,
          XccdfTestResultType.notApplicable.toInt, XccdfTestResultType.informational.toInt,
          XccdfTestResultType.notChecked.toInt]
    let passed := fun rule : XccdfRule =>
      (testResult.getRuleResultById rule.id).any fun ruleResult =>
        ruleResult.result ∈ [XccdfTestResultType.pass.toInt, XccdfTestResultType.fixed.toInt]
    benchmark.defaultScore testResult ∈ Set.Icc 0 100 ∧
      (∀ id g content path, benchmark.getItem id = some (.group g content, path) →
        ∃ sc, xccdfItemGetDefaultScore testResult (.group g content) = some sc ∧
          sc.score ∈ Set.Icc 0 100) ∧
      ((∃ p ∈ benchmark.rulePaths, counted p.1 = true) →
        (∀ p ∈ benchmark.rulePaths, counted p.1 = true →
          passed p.1 = true ∧ 0 < p.1.weight ∧ ∀ g ∈ p.2, 0 < g.weight) →
        benchmark.defaultScore testResult = 100) := by
  intro counted passed
  have hcounted : counted = isCounted testResult :=
    funext fun rule => (isCounted_eq_any testResult rule).symm
  have hpassed : passed = hasPassed testResult :=
    funext fun rule => (hasPassed_eq_any testResult rule).symm
  rw [hcounted, hpassed]
  refine ⟨(defaultScoreContent_bounded (listDefaultScore_mem_Icc testResult _ hw)).normalised,
    fun id g content path hget => ?_, fun hcounted hpass =>
      (defaultScoreContent_full (listDefaultScore_eq_hundred testResult _ hpass)).normalised
        ((benchmark.defaultScoreContent_count_ne_zero testResult).2 hcounted)⟩
  have hw' : ∀ p ∈ (XccdfItem.group g content).rulePaths,
      0 ≤ p.1.weight ∧ ∀ g ∈ p.2, 0 ≤ g.weight := fun p hp =>
    (hw _ (benchmark.rulePaths_of_getItem hget p hp)).imp_right
      fun hg g' hg' => hg g' (List.mem_append_right _ hg')
  exact ⟨_, rfl, xccdfItemGetDefaultScore_mem_Icc testResult _ hw' _ rfl⟩

theorem defaultScore_scoredBenchmark :
    (∀ p ∈ scoredBenchmark.rulePaths, 0 ≤ p.1.weight ∧ ∀ g ∈ p.2, 0 ≤ g.weight) ∧
      let counted := fun rule : XccdfRule =>
        (scoredResult.getRuleResultById rule.id).any fun ruleResult =>
          ruleResult.result ∉ [XccdfTestResultType.notSelected.toInt,
            XccdfTestResultType.notApplicable.toInt, XccdfTestResultType.informational.toInt,
            XccdfTestResultType.notChecked.toInt]
      let passed := fun rule : XccdfRule =>
        (scoredResult.getRuleResultById rule.id).any fun ruleResult =>
          ruleResult.result ∈ [XccdfTestResultType.pass.toInt, XccdfTestResultType.fixed.toInt]
      (scoredBenchmark.defaultScore scoredResult ∈ Set.Icc 0 100 ∧
        (∀ id g content path, scoredBenchmark.getItem id = some (.group g content, path) →
          ∃ sc, xccdfItemGetDefaultScore scoredResult (.group g content) = some sc ∧
            sc.score ∈ Set.Icc 0 100) ∧
        ((∃ p ∈ scoredBenchmark.rulePaths, counted p.1 = true) →
          (∀ p ∈ scoredBenchmark.rulePaths, counted p.1 = true →
            passed p.1 = true ∧ 0 < p.1.weight ∧ ∀ g ∈ p.2, 0 < g.weight) →
          scoredBenchmark.defaultScore scoredResult = 100)) :=
  have hw : ∀ p ∈ scoredBenchmark.rulePaths, 0 ≤ p.1.weight ∧ ∀ g ∈ p.2, 0 ≤ g.weight := by
    simp [scoredBenchmark, XccdfBenchmark.rulePaths, XccdfItem.listRulePaths,
      XccdfItem.rulePaths, weightedRule]
  ⟨hw, defaultScore_mem_Icc_and_eq_hundred scoredBenchmark scoredResult hw⟩

/-- A Rule `r1` of weight `1` beside a Group `g` of weight `1` that holds a Rule `r2` of
weight `0`. -/
def zeroWeightBenchmark : XccdfBenchmark :=
  { id := "benchmark", platforms := [],
    content :=
      [.rule (weightedRule "r1" 1), .group ⟨"g", 1, true, []⟩ [.rule (weightedRule "r2" 0)]],
    plainTexts := [], schemaVersion := "1.2", cpeList := none, cpeLangModel := none,
    profiles := [], ids_nodup := by decide }

/-- Both Rules passed. -/
def passedResult : XccdfResult :=
  { id := "result", ruleResults := [resultFor "r1" .pass, resultFor "r2" .pass] }

/-- Every weight is non-negative and every counted Rule passed, yet the default score is `50`:
the Group scores `0` because its only Rule has weight `0`. -/
theorem defaultScore_zeroWeightBenchmark :
    (∀ p ∈ zeroWeightBenchmark.rulePaths, 0 ≤ p.1.weight ∧ ∀ g ∈ p.2, 0 ≤ g.weight) ∧
      let counted := fun rule : XccdfRule =>
        (passedResult.getRuleResultById rule.id).any fun ruleResult =>
          ruleResult.result ∉ [XccdfTestResultType.notSelected.toInt,
            XccdfTestResultType.notApplicable.toInt, XccdfTestResultType.informational.toInt,
            XccdfTestResultType.notChecked.toInt]
      let passed := fun rule : XccdfRule =>
        (passedResult.getRuleResultById rule.id).any fun ruleResult =>
          ruleResult.result ∈ [XccdfTestResultType.pass.toInt, XccdfTestResultType.fixed.toInt]
      (∃ p ∈ zeroWeightBenchmark.rulePaths, counted p.1 = true) ∧
      (∀ p ∈ zeroWeightBenchmark.rulePaths, counted p.1 = true → passed p.1 = true) ∧
      zeroWeightBenchmark.defaultScore passedResult = 50 := by
  refine ⟨?_, by decide, by decide, ?_⟩
  · simp [zeroWeightBenchmark, XccdfBenchmark.rulePaths, XccdfItem.listRulePaths,
      XccdfItem.rulePaths, weightedRule]
  · norm_num +decide [XccdfBenchmark.defaultScore, zeroWeightBenchmark, defaultScoreContent,
      xccdfItemGetDefaultScore, passedResult, XccdfResult.getRuleResultById, resultFor,
      weightedRule, isIgnoredResult, isPassResult, XccdfTestResultType.toInt, XccdfItem.weight]

/-! ## What the scores read -/

section Lookups

variable {t₁ t₂ : XccdfResult}

mutual
theorem xccdfItemGetFlatScore_congr
    (h : ∀ id, t₁.getRuleResultById id = t₂.getRuleResultById id) (unweighted : Bool) :
    ∀ item, xccdfItemGetFlatScore t₁ unweighted item = xccdfItemGetFlatScore t₂ unweighted item
  | .rule r => by simp only [xccdfItemGetFlatScore, h]
  | .group _ content => by
    simp only [xccdfItemGetFlatScore, flatScoreContent_congr h unweighted _ content]
  | .value _ => rfl

theorem flatScoreContent_congr
    (h : ∀ id, t₁.getRuleResultById id = t₂.getRuleResultById id) (unweighted : Bool) :
    ∀ (score : XccdfFlatScore) (items : List XccdfItem),
      flatScoreContent t₁ unweighted score items = flatScoreContent t₂ unweighted score items
  | _, [] => rfl
  | _, child :: children => by
    simp only [flatScoreContent, xccdfItemGetFlatScore_congr h unweighted child,
      flatScoreContent_congr h unweighted _ children]
end

mutual
theorem xccdfItemGetDefaultScore_congr
    (h : ∀ id, t₁.getRuleResultById id = t₂.getRuleResultById id) :
    ∀ item, xccdfItemGetDefaultScore t₁ item = xccdfItemGetDefaultScore t₂ item
  | .rule r => by simp only [xccdfItemGetDefaultScore, h]
  | .group _ content => by
    simp only [xccdfItemGetDefaultScore, defaultScoreContent_congr h _ content]
  | .value _ => rfl

theorem defaultScoreContent_congr
    (h : ∀ id, t₁.getRuleResultById id = t₂.getRuleResultById id) :
    ∀ (score : XccdfDefaultScore) (items : List XccdfItem),
      defaultScoreContent t₁ score items = defaultScoreContent t₂ score items
  | _, [] => rfl
  | _, child :: children => by
    simp only [defaultScoreContent, xccdfItemGetDefaultScore_congr h child,
      defaultScoreContent_congr h _ children]
end

/-- Every scoring system reads a TestResult through `xccdf_result_get_rule_result_by_id`
only. -/
theorem getScore_congr (h : ∀ id, t₁.getRuleResultById id = t₂.getRuleResultById id)
    (benchmark : XccdfBenchmark) (scsystem : String) :
    xccdfPolicyGetScore benchmark t₁ scsystem = xccdfPolicyGetScore benchmark t₂ scsystem := by
  simp only [xccdfPolicyGetScore, XccdfBenchmark.flatScore, XccdfBenchmark.defaultScore,
    flatScoreContent_congr h, defaultScoreContent_congr h]

end Lookups

/-- A RuleResult added after one of the same Rule is never looked up. -/
theorem getRuleResultById_append_shadowed (testResult : XccdfResult)
    (ruleResult : XccdfRuleResult)
    (hshadowed : ∃ earlier ∈ testResult.ruleResults, earlier.idref = ruleResult.idref)
    (id : String) :
    ({ testResult with ruleResults := testResult.ruleResults ++ [ruleResult] } :
      XccdfResult).getRuleResultById id = testResult.getRuleResultById id := by
  simp only [XccdfResult.getRuleResultById, List.find?_append]
  cases hfind : testResult.ruleResults.find? (·.idref = id) with
  | some _ => rfl
  | none =>
    have hne : ruleResult.idref ≠ id := by
      obtain ⟨earlier, hmem, hid⟩ := hshadowed
      rintro rfl
      simpa [hid] using List.find?_eq_none.1 hfind earlier hmem
    simp [hne]

/-- Every score of `xccdf_policy_get_score` reads each Rule's first RuleResult only: a
RuleResult added for a Rule that already has one, as the multi-check path of
`_xccdf_policy_rule_evaluate` adds for each definition after the first, changes no score in
any scoring system. -/
theorem getScore_append_shadowed (benchmark : XccdfBenchmark) (testResult : XccdfResult)
    (ruleResult : XccdfRuleResult)
    (hshadowed : ∃ earlier ∈ testResult.ruleResults, earlier.idref = ruleResult.idref)
    (scsystem : String) :
    xccdfPolicyGetScore benchmark
        { testResult with ruleResults := testResult.ruleResults ++ [ruleResult] } scsystem =
      xccdfPolicyGetScore benchmark testResult scsystem :=
  getScore_congr (getRuleResultById_append_shadowed testResult ruleResult hshadowed) benchmark
    scsystem

/-- A Fail for `r1` after its Pass changes none of the scores of `scoredResult`. -/
theorem getScore_append_shadowed_scored :
    (∃ earlier ∈ scoredResult.ruleResults, earlier.idref = (resultFor "r1" .fail).idref) ∧
      xccdfPolicyGetScore scoredBenchmark
          { scoredResult with ruleResults := scoredResult.ruleResults ++ [resultFor "r1" .fail] }
          "urn:xccdf:scoring:flat" =
        xccdfPolicyGetScore scoredBenchmark scoredResult "urn:xccdf:scoring:flat" :=
  ⟨⟨_, List.mem_cons_self _ _, rfl⟩, getScore_append_shadowed scoredBenchmark scoredResult
    (resultFor "r1" .fail) ⟨_, List.mem_cons_self _ _, rfl⟩ _⟩

end Xccdf
