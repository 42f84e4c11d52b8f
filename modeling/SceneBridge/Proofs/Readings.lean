import Mathlib.Algebra.Ring.Int.Defs
import SceneBridge.Proofs.Memo
import SceneBridge.Proofs.ObjectRuns
import SceneBridge.Proofs.TypeText
import SceneBridge.Script.Start

/-!
# Readings under changing settings

Type texts are read, the readings forgotten, and the settings loaded again, in any order. Whatever
the table of readings held, dropped or was built anew for in between, a text is read as the settings
of the moment say.
-/

namespace SceneBridge

open Act TypeExpr

/-! ## Sizes -/

/-- If the environment has a number for the size of the table of readings, a machine word holds
it. -/
def Environment.IsSized (env : Environment) : Prop :=
  ∀ text n, env.lookup "TREI_TYPE_CACHE_MAXSIZE" = some text →
    Number.readInt? text.toList = some n → -2 ^ 63 ≤ n ∧ n < 2 ^ 63

/-- A table of such a size can be made: a size below zero counts as zero, and a text that is no
number leaves the usual size. -/
theorem Environment.IsSized.hasTable {env : Environment} (h : env.IsSized) :
    (Settings.load env).hasTable = true := by
  have hlimit : (Settings.load env).cacheLimit < 2 ^ 63 := by
    simp only [Settings.load, intSetting]
    split
    · decide
    · rename_i text htext
      split
      · decide
      · rename_i n hn
        have hbound := (h text n htext hn).2
        simp only [Option.getD_some]
        omega
  exact decide_eq_true hlimit

/-! ## Requests -/

/-- What is asked of whoever reads type texts. -/
inductive ReadingRequest where
  | read (text : String)
  | forget
  /-- The environment was changed, and the settings are loaded again. -/
  | reload (env : Environment)

namespace ReadingRequest

/-- What a request does. -/
def run (calls : Calls) : ReadingRequest → Act Value
  | read text => applyFunction calls "parse_type" [.text text] []
  | forget => applyFunction calls "clear_parse_cache" [] []
  | reload env => do
    modify ({ · with environment := env })
    applyFunction calls "reload_from_env" [] []

/-- The settings after a request. -/
def settings (s : Settings) : ReadingRequest → Settings
  | reload env => .load env
  | _ => s

/-- The answer to a request where nothing is remembered. -/
def answer (s : Settings) : ReadingRequest → Value
  | read text => .type (ofText s.naiveUnions text)
  | _ => .null

/-- The answers to some requests, one after another. -/
def answers (s : Settings) : List ReadingRequest → List Value
  | [] => []
  | r :: rest => r.answer s :: answers (r.settings s) rest

/-- Reloads are of sizes that a machine word holds. -/
def IsSized : ReadingRequest → Prop
  | reload env => env.IsSized
  | _ => True

/-! ## Any table -/

/-- The answers to some requests where a table of readings stands between, whichever entries it
keeps and drops. -/
inductive Session : Settings → Memo → List ReadingRequest → List Value → Prop where
  | nil (s : Settings) (m : Memo) : Session s m [] []
  | read {s : Settings} {m m' : Memo} {text : String} {e : TypeExpr} {rest : List ReadingRequest}
      {vs : List Value} (h : m.Answers s.cacheLimit s.naiveUnions text e m')
      (hrest : Session s m' rest vs) : Session s m (read text :: rest) (.type e :: vs)
  | forget {s : Settings} {m m' : Memo} {rest : List ReadingRequest} {vs : List Value}
      (h : ∀ table, m'.table = some table → table.entries = []) (hrest : Session s m' rest vs) :
      Session s m (forget :: rest) (.null :: vs)
  | reload {s : Settings} {m : Memo} {env : Environment} {rest : List ReadingRequest}
      {vs : List Value} (hrest : Session (.load env) m rest vs) :
      Session s m (reload env :: rest) (.null :: vs)

theorem Session.eq_answers {s : Settings} {m : Memo} {requests : List ReadingRequest}
    {vs : List Value} (h : Session s m requests vs) (hm : m.IsFaithful) :
    vs = answers s requests := by
  induction h with
  | nil s m => rfl
  | read h _ ih =>
    obtain ⟨rfl, hm'⟩ := hm.answers h
    exact congrArg (_ :: ·) (ih hm')
  | forget h _ ih =>
    refine congrArg (_ :: ·) (ih fun table htable x hx => ?_)
    rw [h table htable] at hx
    cases hx
  | reload _ ih => exact congrArg (_ :: ·) (ih hm)

/-! ## The table of the library -/

/-- The state may go on with: a table can be made, and what is remembered are readings. -/
structure IsReady (w : World) : Prop where
  hasTable : w.settings.hasTable = true
  memo : w.memo.IsFaithful

theorem runs_readType {w : World} (hw : IsReady w) (text : String) :
    ∃ w', Runs (readType text) w (ofText w.settings.naiveUnions text) w' ∧
      w'.settings = w.settings ∧ IsReady w' := by
  have hreader : w.settings.typeReader = .ok (ofText w.settings.naiveUnions) :=
    if_pos hw.hasTable
  have hread := hw.memo.read_fst w.settings.cacheLimit w.settings.naiveUnions text
  have hmemo := hw.memo.read w.settings.cacheLimit w.settings.naiveUnions text
  generalize hm : w.memo.read w.settings.cacheLimit w.settings.naiveUnions text = r at hread hmemo
  obtain ⟨t, memo⟩ := r
  refine ⟨{ w with memo }, (runs_get w).bind ?_, rfl, hw.hasTable, hmemo⟩
  rw [hreader, hm, ← hread]
  rfl

theorem run_answers (calls : Calls) {w : World} {r : ReadingRequest} (hw : IsReady w)
    (hr : r.IsSized) :
    ∃ w', Runs (r.run calls) w (r.answer w.settings) w' ∧ w'.settings = r.settings w.settings ∧
      IsReady w' := by
  cases r with
  | read text =>
    obtain ⟨w', hread, hsettings, hw'⟩ := runs_readType hw text
    have hrun : Runs (LibraryFunction.readType.run calls
        ⟨[("type_string", .text text)], [], none, [], none⟩) w
        (.type (ofText w.settings.naiveUnions text)) w' :=
      (runs_plain_text text w).bind (hread.bind (runs_pure _ w'))
    exact ⟨w', (runs_ofExcept _ w).bind hrun, hsettings, hw'⟩
  | forget => exact ⟨{ w with memo := w.memo.clear }, rfl, rfl, hw.hasTable, Memo.IsFaithful.clear⟩
  | reload env =>
    exact ⟨{ w with environment := env, settings := .load env }, rfl, rfl, hr.hasTable, hw.memo⟩

theorem runs_answers (calls : Calls) {w : World} {requests : List ReadingRequest} (hw : IsReady w)
    (hrequests : ∀ r ∈ requests, r.IsSized) :
    ∃ w', Runs (requests.mapM (run calls)) w (answers w.settings requests) w' := by
  induction requests generalizing w with
  | nil => exact ⟨w, runs_pure [] w⟩
  | cons r rest ih =>
    obtain ⟨u, hfirst, hsettings, hu⟩ := run_answers calls hw (hrequests r List.mem_cons_self)
    obtain ⟨w', hrest⟩ := ih hu fun r hr => hrequests r (List.mem_cons_of_mem _ hr)
    refine ⟨w', ?_⟩
    rw [List.mapM_cons]
    refine hfirst.bind (hrest.bind ?_)
    rw [hsettings]
    exact runs_pure _ w'

/-- Whatever is asked for from the start on, and however the settings change in between, every text
is read, and read as the settings of the moment say: so with the table of the library, and so with
any other table, whichever entries it keeps, that answers with what it has for a key or with the
reading itself. -/
theorem read_as_settings_say (calls : Calls) {env : Environment} {requests : List ReadingRequest}
    (henv : env.IsSized) (hrequests : ∀ r ∈ requests, r.IsSized) :
    (∃ w, Runs (requests.mapM (run calls)) (.start env) (answers (.load env) requests) w) ∧
      ∀ vs, Session (.load env) .empty requests vs → vs = answers (.load env) requests := by
  have hstart : IsReady (.start env) := ⟨henv.hasTable, Memo.Reached.empty.isFaithful⟩
  exact ⟨runs_answers calls hstart hrequests, fun vs h => h.eq_answers hstart.memo⟩

/-! ## A text under two settings -/

theorem ofText_entry : ofText false "Map<a|b>" = .generic "Map" [.union [.scalar "a", .scalar "b"]] := by
  have hname (name : String)
      (hform : formOf false (Text.trim name.toList) = .ok (.scalar name.toList)) :
      parse false name.toList = .ok (.scalar name) := by
    rw [parse_eq, hform]
    exact congrArg (Except.ok <| TypeExpr.scalar ·) (String.ofList_toList)
  have hform : formOf false (Text.trim "a|b".toList) = .ok (.union ["a".toList, "b".toList]) := rfl
  have hunion : parse false "a|b".toList = .ok (.union [.scalar "a", .scalar "b"]) := by
    have hparts := parseAll_eq_ok.2 (.cons (hname "a" rfl) (.cons (hname "b" rfl) .nil))
    simp only [parse_eq, hform, Except.bind, hparts, Except.map]
  have hgeneric : formOf false (Text.trim "Map<a|b>".toList) =
      .ok (.generic "Map".toList ["a|b".toList]) := rfl
  have hparams := parseAll_eq_ok.2 (.cons hunion .nil)
  rw [ofText, parse_eq, hgeneric]
  simp only [Except.bind, hparams]
  rfl

theorem ofText_entry_naive : ofText true "Map<a|b>" = .scalar "Map<a|b>" := by
  have hform : formOf true (Text.trim "Map<a|b>".toList) =
      .ok (.union ["Map<a".toList, "b>".toList]) := rfl
  have hopen : formOf true (Text.trim "Map<a".toList) = .error (.unclosed "Map<a".toList) := rfl
  have hparts : parseAll true ["Map<a".toList, "b>".toList] = .error (.unclosed "Map<a".toList) := by
    rw [parseAll, parse_eq, hopen]
    rfl
  rw [ofText, parse_eq, hform]
  simp only [Except.bind, hparts]
  rfl

/-- Some requests: a text is read, then read with another way of splitting and a size below zero,
then once more with a size that is no number. -/
def entryRequests : List ReadingRequest :=
  [read "Map<a|b>",
    reload [("TREI_TYPE_NAIVE_UNION_SPLIT", "yes"), ("TREI_TYPE_CACHE_MAXSIZE", "-3")],
    read "Map<a|b>", forget, reload [("TREI_TYPE_CACHE_MAXSIZE", "many")], read "Map<a|b>"]

/-- The alternatives inside of a type are kept together, or split naively, as the settings say each
time. -/
theorem entry_read_as_set :
    ∃ w, Runs (entryRequests.mapM (run .usual)) (.start [("TREI_TYPE_CACHE_MAXSIZE", "2")])
      [.type (.generic "Map" [.union [.scalar "a", .scalar "b"]]), .null,
        .type (.scalar "Map<a|b>"), .null, .null,
        .type (.generic "Map" [.union [.scalar "a", .scalar "b"]])] w := by
  have hsized {text : String} (n? : Option Int) (hread : Number.readInt? text.toList = n?)
      (hn : ∀ n ∈ n?, -2 ^ 63 ≤ n ∧ n < 2 ^ 63) {env : Environment}
      (henv : env.lookup "TREI_TYPE_CACHE_MAXSIZE" = some text) : env.IsSized := by
    intro other n hother hnumber
    obtain rfl := Option.some.inj (henv.symm.trans hother)
    exact hn n (hread.symm.trans hnumber)
  have hfirst : Environment.IsSized [("TREI_TYPE_CACHE_MAXSIZE", "2")] :=
    hsized (some 2) (by decide +kernel) (by simp) rfl
  have hrequests : ∀ r ∈ entryRequests, r.IsSized := by
    simp only [entryRequests, List.forall_mem_cons]
    refine ⟨trivial, ?_, trivial, trivial, ?_, trivial, List.forall_mem_nil _⟩
    · exact hsized (some (-3)) (by decide +kernel) (by simp) rfl
    · exact hsized none (by decide +kernel) (by simp) rfl
  obtain ⟨⟨w, hrun⟩, -⟩ := read_as_settings_say .usual hfirst hrequests
  refine ⟨w, ?_⟩
  have hbefore : (Settings.load [("TREI_TYPE_CACHE_MAXSIZE", "2")]).naiveUnions = false := by
    decide +kernel
  have hbetween : (Settings.load [("TREI_TYPE_NAIVE_UNION_SPLIT", "yes"),
      ("TREI_TYPE_CACHE_MAXSIZE", "-3")]).naiveUnions = true := by decide +kernel
  have hafter : (Settings.load [("TREI_TYPE_CACHE_MAXSIZE", "many")]).naiveUnions = false := by
    decide +kernel
  simpa only [entryRequests, answers, answer, settings, hbefore, hbetween, hafter, ofText_entry,
    ofText_entry_naive] using hrun

end ReadingRequest

end SceneBridge
