-- SUMMARY: Which requests are refused, and what the others ask storage for.
import Quarry.Proofs.PredicateTree.NormalForm
import Quarry.Proofs.Scan.Transparency

/-!
# Admission of requests

A request is planned before storage is asked for anything, and a request that planning refuses ends
there. Planning looks at the tree first, whatever else the request says, and then at policy, which bars a
request just if nothing would be pushed for it. A plan needs one stream, and that is all that storage is
asked for.

That storage is left alone is said of a scan whose storage may have effects: as long as planning lasts
there are none, and afterwards there are those of a single opening. With a storage that notes down what it
is asked for, the notes are the openings of the scan.
-/

namespace Quarry

/-! ## Openings -/

/-- The reader, noting down the openings that it was asked for after those before. -/
def Reader.recorded (rd : Reader) (opening : Opening) :
    StateM (List Opening) (Except StoreError Stream) :=
  fun openings => (rd.answer opening, openings ++ [opening])

namespace Engine

/-! ## Scans over storage with effects -/

variable {e : Engine} {q : Request}

/-- A scan that planning refuses asks storage for nothing. -/
theorem run_of_refused {err : ScanError}
    (h : Plan.ofRequest e.catalog e.config q.collection q.tree q.hint = .error err) :
    (e.selectIn e.reader.recorded q).run [] = (e.select q, []) := by
  rw [selectIn_of_refused _ h, select_of_refused h]
  rfl

/-- A scan that has a plan asks storage for the opening of the plan. -/
theorem run_of_planned {plan : Plan}
    (h : Plan.ofRequest e.catalog e.config q.collection q.tree q.hint = .ok plan) :
    (e.selectIn e.reader.recorded q).run [] = (e.select q, [plan.opening q.collection]) := by
  rw [selectIn_of_planned _ h, select_of_planned h]
  rfl

/-- A scan depends on storage by what storage answers to the openings that are noted, and by nothing else. -/
theorem select_of_answers {rd : Reader} {openings : List Opening}
    (hrun : (e.selectIn e.reader.recorded q).run [] = (e.select q, openings))
    (h : ∀ opening ∈ openings, rd.answer opening = e.reader.answer opening) :
    ({ e with reader := rd } : Engine).select q = e.select q := by
  cases hplan : Plan.ofRequest e.catalog e.config q.collection q.tree q.hint with
  | error err =>
    exact (select_of_refused (e := { e with reader := rd }) hplan).trans (select_of_refused hplan).symm
  | ok plan =>
    obtain rfl : [plan.opening q.collection] = openings :=
      congrArg Prod.snd ((run_of_planned hplan).symm.trans hrun)
    have hanswer := h _ (List.mem_singleton_self _)
    have hconcluded : ({ e with reader := rd } : Engine).select q =
        e.concluded q plan (rd.answer (plan.opening q.collection)) :=
      select_of_planned (e := { e with reader := rd }) hplan
    rw [hconcluded, hanswer, select_of_planned hplan]
    rfl

end Engine

/-! ## Refused requests -/

/-- Some branch of the tree, at any depth, has fewer than two children. -/
def Request.Malformed (q : Request) : Prop :=
  ∃ t c ts, q.tree = some t ∧ PredicateTree.Occurs (.branch c ts) t ∧ ts.length < 2

theorem Request.not_malformed_iff {q : Request} :
    ¬ q.Malformed ↔ ∀ t, q.tree = some t → t.fault? = none := by
  unfold Malformed
  simp only [PredicateTree.fault?_eq_none_iff, PredicateTree.EveryBranch, not_exists, not_and,
    Nat.not_lt]
  exact ⟨fun h t ht c ts => h t c ts ht, fun h t c ts ht => h t ht c ts⟩

namespace Engine

/-- Nothing would be pushed for the request, and policy forbids to read whole collections. -/
structure Bars (e : Engine) (q : Request) : Prop where
  disabled : e.config.scansEnabled = false
  unhinted : q.hint = none
  unpushed : (Plan.free e.catalog q.collection q.tree).pushed = none

/-- The plan for a request, and what storage is asked for it: the hint, or else the query that the tree
    leads to, or else all records if policy allows it. A hint leaves the whole tree. -/
inductive Asks (e : Engine) (q : Request) : Plan → Opening → Prop
  | hinted {hint : IndexQuery} (hhint : q.hint = some hint) :
    Asks e q ⟨some hint, q.tree⟩ (.query q.collection hint)
  | planned {query : IndexQuery} (unhinted : q.hint = none)
      (pushed : (Plan.free e.catalog q.collection q.tree).pushed = some query) :
    Asks e q (.free e.catalog q.collection q.tree) (.query q.collection query)
  | scanned (enabled : e.config.scansEnabled = true) (unhinted : q.hint = none)
      (unpushed : (Plan.free e.catalog q.collection q.tree).pushed = none) :
    Asks e q (.free e.catalog q.collection q.tree) (.scan q.collection)

variable {e : Engine} {q : Request}

/-- A malformed request is refused by planning. -/
theorem ofRequest_of_malformed (h : q.Malformed) :
    ∃ err, Plan.ofRequest e.catalog e.config q.collection q.tree q.hint = .error (.invalidTree err) := by
  have hfault : q.tree.bind PredicateTree.fault? ≠ none := by
    intro hnone
    refine Request.not_malformed_iff.2 (fun t ht => ?_) h
    rw [ht] at hnone
    exact hnone
  obtain ⟨err, herr⟩ := Option.ne_none_iff_exists'.1 hfault
  exact ⟨err, Plan.ofRequest_eq_invalidTree_iff.2 herr⟩

/-- Any other request is barred, or it has a plan and something to ask storage for. -/
theorem ofRequest_of_not_malformed (h : ¬ q.Malformed) :
    (e.Bars q ∧ Plan.ofRequest e.catalog e.config q.collection q.tree q.hint =
      .error (.scansDisabled q.collection)) ∨
    ¬ e.Bars q ∧ ∃ plan, Plan.ofRequest e.catalog e.config q.collection q.tree q.hint = .ok plan ∧
      e.Asks q plan (plan.opening q.collection) := by
  have hvalid : ∀ t, q.tree = some t → t.fault? = none := Request.not_malformed_iff.1 h
  cases hhint : q.hint with
  | some hint =>
    refine .inr ⟨fun hbars => ?_, _, Plan.ofRequest_of_hint hvalid hint, .hinted hhint⟩
    rw [hbars.unhinted] at hhint
    contradiction
  | none =>
    rw [Plan.ofRequest_of_valid hvalid]
    cases hpushed : (Plan.free e.catalog q.collection q.tree).pushed with
    | some query =>
      have hasks := Asks.planned hhint hpushed
      rw [Plan.isFullScan, hpushed]
      refine .inr ⟨fun hbars => ?_, _, rfl, Plan.opening_of_pushed hpushed ▸ hasks⟩
      rw [hbars.unpushed] at hpushed
      contradiction
    | none =>
      rw [Plan.isFullScan, hpushed]
      cases henabled : e.config.scansEnabled with
      | false => exact .inl ⟨⟨henabled, hhint, hpushed⟩, rfl⟩
      | true =>
        have hasks := Asks.scanned henabled hhint hpushed
        refine .inr ⟨fun hbars => ?_, _, rfl, Plan.opening_of_unpushed hpushed ▸ hasks⟩
        rw [hbars.disabled] at henabled
        contradiction

/-! ## The outcome of a request -/

/-- What becomes of a request, and what storage was asked for on the way. -/
inductive Settles (e : Engine) (q : Request) : Except ScanError Cursor → List Opening → Prop
  | refused {err : TreeError} (malformed : q.Malformed) : Settles e q (.error (.invalidTree err)) []
  | barred (wellFormed : ¬ q.Malformed) (bars : e.Bars q) :
    Settles e q (.error (.scansDisabled q.collection)) []
  | asked {plan : Plan} {opening : Opening} (wellFormed : ¬ q.Malformed) (admitted : ¬ e.Bars q)
      (asks : e.Asks q plan opening) :
    Settles e q (e.concluded q plan (e.reader.answer opening)) [opening]

/-- A scan over storage that takes notes settles the request with what is noted. -/
theorem settles_select (e : Engine) (q : Request) :
    ∃ openings, (e.selectIn e.reader.recorded q).run [] = (e.select q, openings) ∧
      e.Settles q (e.select q) openings := by
  by_cases hmalformed : q.Malformed
  · obtain ⟨err, hplan⟩ := ofRequest_of_malformed (e := e) hmalformed
    refine ⟨[], run_of_refused hplan, ?_⟩
    rw [select_of_refused hplan]
    exact .refused hmalformed
  · rcases ofRequest_of_not_malformed (e := e) hmalformed with
      ⟨hbars, hplan⟩ | ⟨hadmitted, plan, hplan, hasks⟩
    · refine ⟨[], run_of_refused hplan, ?_⟩
      rw [select_of_refused hplan]
      exact .barred hmalformed hbars
    · refine ⟨_, run_of_planned hplan, ?_⟩
      rw [select_of_planned hplan]
      exact .asked hmalformed hadmitted hasks

namespace Settles

variable {outcome : Except ScanError Cursor} {openings : List Opening}

theorem invalidTree_iff (h : e.Settles q outcome openings) :
    (∃ err, outcome = .error (.invalidTree err)) ↔ q.Malformed := by
  cases h with
  | refused malformed => exact iff_of_true ⟨_, rfl⟩ malformed
  | barred wellFormed bars => exact iff_of_false (by simp) wellFormed
  | @asked plan opening wellFormed admitted asks =>
    refine iff_of_false ?_ wellFormed
    cases e.reader.answer opening <;> simp [concluded]

theorem scansDisabled_iff (h : e.Settles q outcome openings) (name : String) :
    outcome = .error (.scansDisabled name) ↔ name = q.collection ∧ ¬ q.Malformed ∧ e.Bars q := by
  cases h with
  | refused malformed => simp [malformed]
  | barred wellFormed bars => simp [wellFormed, bars, eq_comm]
  | @asked plan opening wellFormed admitted asks =>
    refine iff_of_false ?_ fun hbarred => admitted hbarred.2.2
    cases e.reader.answer opening <;> simp [concluded]

theorem openings_eq_nil (h : e.Settles q outcome openings) (hrefused : q.Malformed ∨ e.Bars q) :
    openings = [] := by
  cases h with
  | refused malformed => rfl
  | barred wellFormed bars => rfl
  | asked wellFormed admitted asks => exact absurd hrefused (not_or.2 ⟨wellFormed, admitted⟩)

theorem exists_asks (h : e.Settles q outcome openings) (hmalformed : ¬ q.Malformed)
    (hbars : ¬ e.Bars q) :
    ∃ plan opening, e.Asks q plan opening ∧ openings = [opening] ∧
      outcome = e.concluded q plan (e.reader.answer opening) := by
  cases h with
  | refused malformed => contradiction
  | barred wellFormed bars => contradiction
  | asked wellFormed admitted asks => exact ⟨_, _, asks, rfl, rfl⟩

theorem scan_notMem (h : e.Settles q outcome openings) (hdisabled : e.config.scansEnabled = false)
    (name : String) : .scan name ∉ openings := by
  cases h with
  | refused malformed => exact List.not_mem_nil
  | barred wellFormed bars => exact List.not_mem_nil
  | asked wellFormed admitted asks =>
    cases asks with
    | hinted hhint => simp
    | planned unhinted pushed => simp
    | scanned enabled unhinted unpushed =>
      rw [hdisabled] at enabled
      contradiction

end Settles

/-- A request is refused as malformed just if its tree has a branch with fewer than two children, and any
    other is barred just if scans are disabled, it has no hint and its free plan pushes nothing. In both
    cases storage is asked for nothing. Otherwise it is asked for one stream: by the hint, which leaves the
    whole tree, or by the planned query, or for all records if there is no query and scans are enabled. The
    scan starts with that stream, or fails with the error of storage and the query that was put to it. So
    nothing reads a whole collection while scans are disabled. Any other storage that gives the same answer
    to what is asked leads to the same outcome. -/
theorem select_admission (e : Engine) (q : Request) :
    ∃ openings, (e.selectIn e.reader.recorded q).run [] = (e.select q, openings) ∧
      ((∃ err, e.select q = .error (.invalidTree err)) ↔ q.Malformed) ∧
      (∀ name, e.select q = .error (.scansDisabled name) ↔
        name = q.collection ∧ ¬ q.Malformed ∧ e.Bars q) ∧
      (q.Malformed ∨ e.Bars q → openings = []) ∧
      (¬ q.Malformed → ¬ e.Bars q → ∃ plan opening, e.Asks q plan opening ∧ openings = [opening] ∧
        (∀ source, e.reader.answer opening = .ok source →
          e.select q = .ok (.start q.collection e.evaluator
            (q.maxRecords.getD e.config.maxRecords.toNat) plan source)) ∧
        ∀ err, e.reader.answer opening = .error err →
          e.select q = .error (.storage q.collection (plan.pushed.map (·.display)) err)) ∧
      (e.config.scansEnabled = false → ∀ name, .scan name ∉ openings) ∧
      ∀ rd : Reader, (∀ opening ∈ openings, rd.answer opening = e.reader.answer opening) →
        ({ e with reader := rd } : Engine).select q = e.select q := by
  obtain ⟨openings, hrun, hsettles⟩ := settles_select e q
  refine ⟨openings, hrun, hsettles.invalidTree_iff, hsettles.scansDisabled_iff,
    hsettles.openings_eq_nil, fun hmalformed hbars => ?_, hsettles.scan_notMem,
    fun rd => select_of_answers hrun⟩
  obtain ⟨plan, opening, hasks, hopenings, hselect⟩ := hsettles.exists_asks hmalformed hbars
  refine ⟨plan, opening, hasks, hopenings, fun source hsource => ?_, fun err herr => ?_⟩
  · rw [hselect, hsource]
    rfl
  · rw [hselect, herr]
    rfl

/-- The tree is looked at before policy and before storage, which would refuse the request as well. -/
example :
    let reader : Reader := ⟨fun c => .error (.collectionNotFound c), fun c _ => .error (.collectionNotFound c)⟩
    let e : Engine := ⟨reader, fun _ _ => none, { scansEnabled := false }, .containment⟩
    e.select ⟨"c", some (.branch .or []), none, none⟩ = .error (.invalidTree (.fewChildren .or 0)) := by
  rfl

end Engine

end Quarry
