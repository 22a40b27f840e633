import MacroFusion.Console

/-!
# Reporters: what the console comes to

The logger is shared by the whole program.  Each new reporter changes it, and asking for the shared
reporter makes one the first time.  A history is a list of such uses, with reports among them.

* `equip_equip`             equipping the logger again takes back what was there before;
* `reporters`, `shared?`    the reporters that a history makes, and the one that it shares, read off the
                            history alone;
* `after_eq`, `logger_after`   the state after a history, in these terms;
* `onConsole`, `write_eq`   the records that reach a console, and the lines that are written for them;
* `onConsole_equip`         an equipped logger shows every report just once;
* `console_after`           all of it for every history.
-/

namespace MacroFusion

/-! ## Records on the console -/

/-- the record that a sink puts on the console -/
def Sink.shown? (e : Log.Entry) : Sink → Option Log.Entry
  | .console threshold => if threshold.rank ≤ e.level.rank then some e else none
  | .other _ => none

namespace Logger

/-- the records that a logger puts on consoles when something is logged -/
def onConsole (l : Logger) (e : Log.Entry) : List Log.Entry :=
  if l.passes e then l.sinks.filterMap (Sink.shown? e) else []

theorem join_write (time : String) (e : Log.Entry) (sinks : List Sink) :
    String.join (sinks.map (·.write time e))
      = String.join ((sinks.filterMap (Sink.shown? e)).map (·.line time)) := by
  induction sinks with
  | nil => rfl
  | cons s sinks ih =>
    rw [List.map_cons, String.join_cons, ih]
    cases s with
    | console threshold =>
      by_cases h : threshold.rank ≤ e.level.rank
      · simp [Sink.write, Sink.shown?, h]
      · simp [Sink.write, Sink.shown?, h]
    | other tag =>
      rw [List.filterMap_cons_none rfl]
      exact String.empty_append

/-- what is written are the lines of these records -/
theorem write_eq {l : Logger} (h : l.sinks ≠ []) (time : String) (e : Log.Entry) :
    l.write time e = String.join ((l.onConsole e).map (·.line time)) := by
  have hempty : l.sinks.isEmpty = false := List.isEmpty_eq_false_iff.mpr h
  unfold write onConsole
  cases hp : l.passes e with
  | false => rfl
  | true =>
    simp only [hempty, Bool.not_true, Bool.false_eq_true, if_false, if_true]
    exact join_write time e l.sinks

/-! ## Equipping -/

theorem equip_equip (l : Logger) (debug debug' : Bool) :
    (l.equip debug).equip debug' = l.equip debug' := by
  simp [equip, Sink.isConsole]

/-- equipping a logger again and again comes to equipping it once -/
theorem foldl_equip_concat (l : Logger) (modes : List Bool) (debug : Bool) :
    (modes ++ [debug]).foldl equip l = l.equip debug := by
  rw [List.foldl_append]
  show (modes.foldl equip l).equip debug = l.equip debug
  induction modes generalizing l with
  | nil => rfl
  | cons mode modes ih =>
    rw [List.foldl_cons, ih, equip_equip]

theorem equip_others (threshold : Option Log.Level) (tags : List Nat) (debug : Bool) :
    equip ⟨threshold, tags.map .other⟩ debug
      = ⟨some (level debug), tags.map .other ++ [.console (level debug)]⟩ := by
  have hfilter : (tags.map Sink.other).filter (!·.isConsole) = tags.map .other := by
    rw [List.filter_eq_self]
    intro s hs
    obtain ⟨tag, _, rfl⟩ := List.mem_map.mp hs
    rfl
  rw [equip, hfilter]

/-- no report is below the threshold of a console -/
theorem rank_level_le (debug : Bool) (severity : Severity) :
    (level debug).rank ≤ (Log.Level.ofSeverity severity).rank := by
  cases debug <;> cases severity <;> decide

/-- **A report is one record on the console of an equipped logger.** -/
theorem onConsole_equip (threshold : Option Log.Level) (tags : List Nat) (debug : Bool)
    (d : Diagnostic) :
    (equip ⟨threshold, tags.map .other⟩ debug).onConsole (Reporter.entry d) = [Reporter.entry d] := by
  have hrank : (level debug).rank ≤ (Reporter.entry d).level.rank := rank_level_le debug d.severity
  have hothers : (tags.map Sink.other).filterMap (Sink.shown? (Reporter.entry d)) = [] := by
    rw [List.filterMap_eq_nil_iff]
    intro s hs
    obtain ⟨tag, _, rfl⟩ := List.mem_map.mp hs
    rfl
  have hpasses : passes ⟨some (level debug), tags.map .other ++ [.console (level debug)]⟩
      (Reporter.entry d) = true := decide_eq_true hrank
  have hshown : Sink.shown? (Reporter.entry d) (.console (level debug)) = some (Reporter.entry d) :=
    if_pos hrank
  rw [equip_others, onConsole, hpasses, if_pos rfl, List.filterMap_append, hothers]
  simp [hshown]

end Logger

/-! ## Histories -/

namespace Reporting

/-- what is done with reporters -/
inductive Use where
  | create (debug : Bool)
  | obtain (debug : Bool)
  | report (reporter : Reporter) (d : Diagnostic)

/-- a report leaves everything as it is -/
def perform (r : Reporting) : Use → Reporting
  | .create debug => (r.create debug).2
  | .obtain debug => (r.obtain debug).2
  | .report _ _ => r

def after (r : Reporting) (uses : List Use) : Reporting := uses.foldl perform r

/-- at first there are only sinks of others -/
def initial (threshold : Option Log.Level) (tags : List Nat) : Reporting :=
  { logger := ⟨threshold, tags.map .other⟩ }

/-- the reporters that a history makes, numbered from `n` on; the shared one is made once -/
def reportersFrom (n : Nat) (isShared : Bool) : List Use → List Reporter
  | [] => []
  | .create debug :: uses => ⟨debug, n⟩ :: reportersFrom (n + 1) isShared uses
  | .obtain debug :: uses =>
    if isShared then reportersFrom n true uses
    else ⟨debug, n⟩ :: reportersFrom (n + 1) true uses
  | .report _ _ :: uses => reportersFrom n isShared uses

/-- the reporter that the first request makes, if there are `n` before the history -/
def sharedFrom? (n : Nat) : List Use → Option Reporter
  | [] => none
  | .create _ :: uses => sharedFrom? (n + 1) uses
  | .obtain debug :: _ => some ⟨debug, n⟩
  | .report _ _ :: uses => sharedFrom? n uses

theorem obtain_of_shared {r : Reporting} {reporter : Reporter} (h : r.shared = some reporter)
    (debug : Bool) : r.obtain debug = (reporter, r) := by
  rw [obtain, h]

theorem obtain_of_none {r : Reporting} (h : r.shared = none) (debug : Bool) :
    r.obtain debug = (⟨debug, r.made⟩,
      ⟨r.logger.equip debug, some ⟨debug, r.made⟩, r.made + 1⟩) := by
  rw [obtain, h]
  rfl

/-- **The state after a history**, from what the history makes and shares. -/
theorem after_eq (r : Reporting) (uses : List Use) :
    r.after uses =
      ⟨((reportersFrom r.made r.shared.isSome uses).map (·.debug)).foldl Logger.equip r.logger,
        r.shared.or (sharedFrom? r.made uses),
        r.made + (reportersFrom r.made r.shared.isSome uses).length⟩ := by
  induction uses generalizing r with
  | nil => simp [after, reportersFrom, sharedFrom?]
  | cons u uses ih =>
    show (r.perform u).after uses = _
    rw [ih]
    cases u with
    | create debug =>
      simp [perform, create, reportersFrom, sharedFrom?, Nat.add_assoc, Nat.add_comm 1]
    | obtain debug =>
      cases hs : r.shared with
      | some reporter => simp [perform, obtain_of_shared hs, reportersFrom, hs]
      | none =>
        simp [perform, obtain_of_none hs, reportersFrom, sharedFrom?, Nat.add_assoc, Nat.add_comm 1]
    | report reporter d => rfl

/-- no two reporters have the same number -/
theorem numbers_reportersFrom (n : Nat) (isShared : Bool) (uses : List Use) :
    (reportersFrom n isShared uses).map (·.number)
      = List.range' n (reportersFrom n isShared uses).length := by
  induction uses generalizing n isShared with
  | nil => rfl
  | cons u uses ih =>
    cases u with
    | create debug => simp [reportersFrom, ih, List.range'_succ]
    | obtain debug =>
      cases isShared with
      | true => exact ih n true
      | false => simp [reportersFrom, ih, List.range'_succ]
    | report reporter d => exact ih n isShared

theorem mem_reportersFrom_of_shared {n : Nat} {uses : List Use} {reporter : Reporter}
    (h : sharedFrom? n uses = some reporter) : reporter ∈ reportersFrom n false uses := by
  induction uses generalizing n with
  | nil => cases h
  | cons u uses ih =>
    cases u with
    | create debug => exact List.mem_cons_of_mem _ (ih h)
    | obtain debug =>
      have he : (⟨debug, n⟩ : Reporter) = reporter := Option.some.inj h
      rw [← he]
      exact List.mem_cons_self
    | report _ d => exact ih h

/-- the reporters that a history makes from the beginning -/
def reporters (uses : List Use) : List Reporter := reportersFrom 0 false uses

/-- the reporter that a history shares -/
def shared? (uses : List Use) : Option Reporter := sharedFrom? 0 uses

section
variable (threshold : Option Log.Level) (tags : List Nat) (uses : List Use)

theorem after_initial :
    (initial threshold tags).after uses =
      ⟨((reporters uses).map (·.debug)).foldl Logger.equip ⟨threshold, tags.map .other⟩,
        shared? uses, (reporters uses).length⟩ := by
  rw [after_eq]
  simp [initial, reporters, shared?]

theorem logger_after {latest : Reporter} (h : (reporters uses).getLast? = some latest) :
    ((initial threshold tags).after uses).logger
      = Logger.equip ⟨threshold, tags.map .other⟩ latest.debug := by
  obtain ⟨earlier, he⟩ := List.getLast?_eq_some_iff.mp h
  rw [after_initial, he, List.map_append]
  exact Logger.foldl_equip_concat _ _ _

/-- **The console after any history.**  Once a reporter was made, there is one console sink, behind the
sinks of others; its threshold and that of the logger are those of the latest reporter; and every report
is one record on it.  Whoever asks for the shared reporter gets the one that the first request made, and
no other reporter is made then. -/
theorem console_after :
    (∀ latest, (reporters uses).getLast? = some latest →
      ((initial threshold tags).after uses).logger.sinks
          = tags.map .other ++ [.console (if latest.debug then .debug else .info)]
        ∧ ((initial threshold tags).after uses).logger.threshold
          = some (if latest.debug then .debug else .info)
        ∧ ∀ (reporter : Reporter) (time : String) (d : Diagnostic),
          ((initial threshold tags).after uses).logger.onConsole (Reporter.entry d)
              = [Reporter.entry d]
            ∧ reporter.report ((initial threshold tags).after uses).logger time d
              = (Reporter.entry d).line time ++ if reporter.debug then Reporter.traceback else "")
    ∧ ((reporters uses).map (·.number)).Nodup
    ∧ (shared? uses = none → ∀ debug,
        (((initial threshold tags).after uses).obtain debug).1 = ⟨debug, (reporters uses).length⟩)
    ∧ ∀ first, shared? uses = some first → first ∈ reporters uses ∧ ∀ debug,
        ((initial threshold tags).after uses).obtain debug
          = (first, (initial threshold tags).after uses) := by
  have hshared : ((initial threshold tags).after uses).shared = shared? uses := by
    rw [after_initial]
  refine ⟨fun latest hl => ?_, ?_, fun hnone debug => ?_, fun first hfirst => ⟨?_, fun debug => ?_⟩⟩
  · have hone := Logger.onConsole_equip threshold tags latest.debug
    rw [logger_after threshold tags uses hl]
    have hne : (Logger.equip ⟨threshold, tags.map .other⟩ latest.debug).sinks ≠ [] := by
      rw [Logger.equip_others]
      exact List.append_ne_nil_of_right_ne_nil _ (List.cons_ne_nil _ _)
    refine ⟨?_, rfl, fun reporter time d => ⟨hone d, ?_⟩⟩
    · rw [Logger.equip_others]
      rfl
    · rw [Reporter.report, Logger.write_eq hne, hone d]
      simp
  · rw [reporters, numbers_reportersFrom]
    exact List.nodup_range'
  · rw [obtain_of_none (hshared.trans hnone), after_initial]
  · exact mem_reportersFrom_of_shared hfirst
  · exact obtain_of_shared (hshared.trans hfirst) debug

end

/-- The shared reporter comes second and without debug mode, and stays when debug mode is asked for. -/
theorem console_after_second_request :
    reporters [.create true, .obtain false, .obtain true] = [⟨true, 0⟩, ⟨false, 1⟩]
      ∧ ((initial none [7]).after [.create true, .obtain false, .obtain true]).logger
        = ⟨some .info, [.other 7, .console .info]⟩
      ∧ (((initial none [7]).after [.create true, .obtain false, .obtain true]).obtain true).1
        = ⟨false, 1⟩ := by
  have h := console_after none [7] [.create true, .obtain false, .obtain true]
  obtain ⟨hsinks, hthreshold, _⟩ := h.1 ⟨false, 1⟩ rfl
  obtain ⟨_, hobtain⟩ := h.2.2.2 ⟨false, 1⟩ rfl
  refine ⟨rfl, ?_, ?_⟩
  · exact congr (congrArg Logger.mk hthreshold) hsinks
  · rw [hobtain]

end Reporting

end MacroFusion
