import Mathlib.Data.List.Forall2
import ClusterLock.Program
import ClusterLock.Proofs.SharedWords

/-
  The log file of the lock, `lock.log`. It gets every event of the lock's parts of the program and
  no other (`lockLog_admits_iff`). Its lines are its own but for the words of the spans: the console
  comes first, and where it lets a span through it makes the words, in color if it has color
  (`isColored_outputs`). So two settings fill the file alike just when their consoles treat the
  spans alike that the file shows (`lockLog_same_iff`).
-/
namespace ClusterLock

/-! ## Files that are added to -/

theorem toList_loop (bs : ByteArray) (i : Nat) (r : List UInt8) :
    ByteArray.toList.loop bs i r = r.reverse ++ bs.data.toList.drop i := by
  fun_induction ByteArray.toList.loop bs i r with
  | case1 i r h ih =>
    have hi : i < bs.data.toList.length := by simpa using h
    have hget : bs.get! i = bs.data.toList[i] := by
      rw [Array.getElem_toList]
      exact getElem!_pos bs.data i hi
    rw [ih, List.reverse_cons, List.append_assoc, List.drop_eq_getElem_cons hi, hget]
    rfl
  | case2 i r h => rw [List.drop_eq_nil_of_le (by simpa using h), List.append_nil]

theorem toList_toUTF8_inj {x y : String} (h : x.toUTF8.toList = y.toUTF8.toList) : x = y := by
  have hdata : ∀ bs : ByteArray, bs.toList = bs.data.toList := fun bs => toList_loop bs 0 []
  rw [hdata, hdata] at h
  exact String.toByteArray_inj.1 (ByteArray.ext (Array.toList_inj.1 h))

theorem Content.append_inj {c : Content} {x y : String} : c.append x = c.append y ↔ x = y := by
  cases c with
  | text s => simp only [append, text.injEq, String.append_right_inj]
  | bytes bs =>
    simp only [append, bytes.injEq, List.append_cancel_left_eq]
    exact ⟨toList_toUTF8_inj, fun h => by rw [h]⟩

/-- What is in a file after a text has been added. -/
def Content.withMore (old : Option Content) (more : String) : Content :=
  old.elim (.text more) (·.append more)

theorem Content.withMore_inj {old : Option Content} {x y : String} :
    withMore old x = withMore old y ↔ x = y := by
  cases old with
  | none => exact ⟨fun h => Content.text.inj h, fun h => by rw [h]⟩
  | some c => exact append_inj

theorem FileTree.file?_append (t : FileTree) (p q : Place) (text : String) :
    (t.append p text).file? q =
      if q = p then some (.withMore (t.file? p) text) else t.file? q := by
  have hadded : ∀ files : List (Place × Content),
      (files.map fun f => if f.1 = p then (f.1, f.2.append text) else (f.1, f.2)).lookup q =
        (files.lookup q).map fun c => if q = p then c.append text else c := by
    intro files
    induction files with
    | nil => rfl
    | cons f files ih =>
      obtain ⟨r, c⟩ := f
      have hhead : (if r = p then (r, c.append text) else (r, c)) =
          (r, if r = p then c.append text else c) := by
        split <;> rfl
      rw [List.map_cons, hhead, List.lookup_cons, List.lookup_cons]
      cases hr : q == r with
      | true => rw [Option.map_some, beq_iff_eq.1 hr]
      | false => exact ih
  unfold append
  cases hold : t.file? p with
  | none =>
    unfold file? at hold ⊢
    by_cases hq : q = p
    · subst hq
      simp [List.lookup_append, hold, Content.withMore]
    · have hne : (q == p) = false := beq_eq_false_iff_ne.2 hq
      simp [List.lookup_append, List.lookup_cons, hq, hne]
  | some c =>
    unfold file? at hold ⊢
    refine (hadded t.files).trans ?_
    by_cases hq : q = p
    · subst hq
      simp [hold, Content.withMore]
    · simp [hq]

/-! ## Filters by target -/

namespace LogFilter

/-- The target begins with one of these. -/
def Under (targets : List Target) (t : Target) : Prop := ∃ p ∈ targets, p.toList <+: t.toList

instance (targets : List Target) (t : Target) : Decidable (Under targets t) := by
  unfold Under; infer_instance

variable (targets : List Target)

theorem caresAbout_ofTargets (s : Span) : (ofTargets targets).any (·.caresAbout s) = false := by
  rw [List.any_eq_false]
  intro d hd
  obtain ⟨t, -, rfl⟩ := List.mem_map.1 hd
  exact Bool.false_ne_true

theorem allowsInside_ofTargets (scope : Scope) (level : Level) :
    (ofTargets targets).allowsInside scope level = false := by
  rw [allowsInside, List.any_eq_false]
  intro s _
  rw [Bool.not_eq_true, List.any_eq_false]
  intro d hd
  have hcares := List.any_eq_false.1 (caresAbout_ofTargets targets s) d hd
  rw [Directive.catches, Bool.and_assoc, Bool.and_eq_true]
  exact fun h => hcares h.1

/-- Directives without a limit let through what any of them is about. -/
theorem allows_everything {ds : List Directive} (h : ∀ d ∈ ds, d.limit = .everything)
    (level : Level) : allows ds level = true ↔ ds ≠ [] := by
  rw [allows]
  cases hd : Directive.decisive? ds with
  | none =>
    cases ds with
    | nil => simp
    | cons d ds => cases hd
  | some d =>
    have hmem := Directive.decisive?_mem hd
    rw [Option.any_some, h d hmem]
    exact iff_of_true (Limit.everything_allows level) (List.ne_nil_of_mem hmem)

theorem limit_ofTargets {d : Directive} (hd : d ∈ ofTargets targets) : d.limit = .everything := by
  obtain ⟨t, -, rfl⟩ := List.mem_map.1 hd
  rfl

theorem admits_ofTargets (unasked : Span → Bool) (e : Event) :
    (ofTargets targets).admits unasked e = true ↔ Under targets e.note.target := by
  rw [admits, allowsInside_ofTargets, Bool.false_or,
    allows_everything fun d hd => limit_ofTargets targets (List.mem_of_mem_filter hd), Ne,
    List.filter_eq_nil_iff]
  simp [ofTargets, Directive.coversNote, Directive.isStatic, Directive.asksValue,
    Directive.coversTarget, Under]

theorem allows_coversSpan_ofTargets (s : Span) :
    allows ((ofTargets targets).filter (·.coversSpan s)) s.level = true ↔
      Under targets s.target := by
  rw [allows_everything fun d hd => limit_ofTargets targets (List.mem_of_mem_filter hd), Ne,
    List.filter_eq_nil_iff]
  simp [ofTargets, Directive.coversSpan, Directive.isStatic, Directive.asksValue,
    Directive.coversTarget, Under]

theorem registers_ofTargets (s : Span) :
    (ofTargets targets).registers s = true ↔ Under targets s.target := by
  rw [registers, caresAbout_ofTargets, Bool.false_or, allows_coversSpan_ofTargets]

/-- A filter by target shows no more where it is not asked. -/
theorem admitsInner_ofTargets {unasked : Span → Bool} {s : Span}
    (h : unasked s = true → (ofTargets targets).registers s = true) (outer : Scope) :
    (ofTargets targets).admitsInner unasked outer s = true ↔ Under targets s.target := by
  rw [registers_ofTargets] at h
  rw [admitsInner, admitsSpan, caresAbout_ofTargets, allowsInside_ofTargets, Bool.false_and,
    Bool.or_false, Bool.or_false, Bool.or_eq_true, allows_coversSpan_ofTargets]
  exact or_iff_right_of_imp h

end LogFilter

/-! ## The outputs -/

/-- The target of something that the lock's parts of the program say. -/
abbrev OfLock (t : Target) : Prop := LogFilter.Under ["cpinit_lock", "cpinit_kube"] t

/-- The output for the log file of the lock. -/
def lockLog : LogOutput :=
  { destination := .file "lock.log", filter := .ofTargets ["cpinit_lock", "cpinit_kube"] }

theorem lockLog_admits_iff (outputs : List LogOutput) (e : Event) :
    lockLog.admits outputs e = true ↔ OfLock e.note.target :=
  LogFilter.admits_ofTargets _ _ e

theorem lockLog_shows_iff {outputs : List LogOutput} (h : lockLog ∈ outputs) (outer : Scope)
    (s : Span) : lockLog.shows outputs outer s = true ↔ OfLock s.target := by
  refine LogFilter.admitsInner_ofTargets _ (fun hunasked => ?_) outer
  rw [LogOutput.unasked, Bool.and_eq_true, List.all_eq_true] at hunasked
  exact hunasked.1 lockLog h

namespace LogSettings

variable {s s' : LogSettings} {patterns : PatternReader} {env env' : List (String × String)}

/-- The console as an output. -/
def consoleLog (s : LogSettings) (patterns : PatternReader) (env : List (String × String)) :
    LogOutput :=
  { destination := .console, filter := .ofEnvironment patterns env s.consoleLevel
    color := hasColor env }

/-- The output for the log file of everything. -/
def rootLog (s : LogSettings) (patterns : PatternReader) (env : List (String × String)) :
    LogOutput :=
  { destination := .file rootLogName, filter := .ofEnvironment patterns env s.fileLevel
    threadName := true }

/-- Whether the words for a span are made by the console, and in color. -/
def colors (s : LogSettings) (patterns : PatternReader) (env : List (String × String))
    (outer : Scope) (span : Span) : Bool :=
  s.console && hasColor env &&
    (s.consoleLog patterns env).shows (s.outputs patterns env) outer span

theorem outputs_eq (hs : s.file = true) (patterns : PatternReader) (env : List (String × String)) :
    s.outputs patterns env =
      (if s.console then [s.consoleLog patterns env] else []) ++
        [s.rootLog patterns env, lockLog] := by
  rw [outputs, if_pos hs]
  rfl

theorem lockLog_mem_outputs (hs : s.file = true) (patterns : PatternReader)
    (env : List (String × String)) : lockLog ∈ s.outputs patterns env := by
  rw [outputs_eq hs]
  simp

/-- Of the outputs only the console has color, and it comes first. -/
theorem isColored_outputs (hs : s.file = true) (outer : Scope) (span : Span) :
    LogOutput.isColored (s.outputs patterns env) outer span =
      s.colors patterns env outer span := by
  -- which spans are shown depends on all outputs, and the console is told from the files for any
  suffices h : ∀ shown : LogOutput → Bool,
      ((s.outputs patterns env).find? shown).any (·.color) =
        (s.console && hasColor env && shown (s.consoleLog patterns env)) from h _
  intro shown
  have hfiles : ([s.rootLog patterns env, lockLog].find? shown).any (·.color) = false := by
    rw [Option.any_eq_false]
    intro o ho
    have hmem := List.mem_of_find?_eq_some ho
    simp only [List.mem_cons, List.not_mem_nil, or_false] at hmem
    rcases hmem with rfl | rfl
    · rfl
    · rfl
  rw [outputs_eq hs]
  cases hconsole : s.console with
  | false => exact hfiles
  | true =>
    rw [if_pos rfl, List.singleton_append, List.find?_cons]
    cases hadmits : shown (s.consoleLog patterns env) with
    | false => rw [Bool.and_false]; exact hfiles
    | true => rw [Bool.true_and, Bool.and_true]; rfl

/-- What the log file of the lock gets. -/
def lockText (s : LogSettings) (patterns : PatternReader) (env : List (String × String))
    (stamp : String) (events : List Event) : String :=
  String.join ((lockLog.lines (s.outputs patterns env) stamp events).map (· ++ "\n"))

/-- The lines of an output are added to its file; the console has none. -/
def addTo (outputs : List LogOutput) (dir : Place) (suffix stamp : String) (events : List Event)
    (files : FileTree) (o : LogOutput) : FileTree :=
  match o.destination with
  | .console => files
  | .file name => files.append (dir ++ [name ++ suffix])
      (String.join ((o.lines outputs stamp events).map (· ++ "\n")))

theorem writeLogs_eq (hs : s.file = true) (patterns : PatternReader) (env : List (String × String))
    (dir : Place) (suffix stamp : String) (events : List Event) (files : FileTree) :
    writeLogs (s.outputs patterns env) dir (· ++ suffix) stamp events files =
      [s.rootLog patterns env, lockLog].foldl
        (addTo (s.outputs patterns env) dir suffix stamp events) files := by
  have hfold : writeLogs (s.outputs patterns env) dir (· ++ suffix) stamp events files =
      (s.outputs patterns env).foldl
        (addTo (s.outputs patterns env) dir suffix stamp events) files := rfl
  have houtputs := congrArg
    (List.foldl (addTo (s.outputs patterns env) dir suffix stamp events) files)
    (outputs_eq hs patterns env)
  rw [hfold, houtputs]
  cases s.console <;> rfl

/-- The text is added to the log file of the lock; the file for everything is another one. -/
theorem file?_writeLogs (hs : s.file = true) (patterns : PatternReader)
    (env : List (String × String)) (dir : Place) (suffix stamp : String) (events : List Event)
    (files : FileTree) :
    (writeLogs (s.outputs patterns env) dir (· ++ suffix) stamp events files).file?
        (dir ++ ["lock.log" ++ suffix]) =
      some (.withMore (files.file? (dir ++ ["lock.log" ++ suffix]))
        (s.lockText patterns env stamp events)) := by
  have hother : dir ++ ["lock.log" ++ suffix] ≠ dir ++ [rootLogName ++ suffix] := by
    intro h
    have hname := List.singleton_inj.1 (List.append_cancel_left h)
    rw [String.append_left_inj] at hname
    exact absurd hname (by decide)
  rw [writeLogs_eq hs, List.foldl_cons, List.foldl_cons, List.foldl_nil]
  refine (FileTree.file?_append ..).trans ?_
  rw [if_pos rfl, addTo]
  refine congrArg (fun old => some (Content.withMore old (s.lockText patterns env stamp events))) ?_
  refine (FileTree.file?_append ..).trans ?_
  rw [if_neg hother]

/-- What the file gets tells how the words were made that it shows. -/
theorem lockText_eq_iff (hs : s.file = true) (hs' : s'.file = true) (stamp : String)
    (events : List Event) :
    s.lockText patterns env stamp events = s'.lockText patterns env' stamp events ↔
      ∀ e ∈ events, OfLock e.note.target → ∀ outer span inner, e.scope = outer ++ span :: inner →
        OfLock span.target → span.fields ≠ [] →
          s.colors patterns env outer span = s'.colors patterns env' outer span := by
  have hadmits : lockLog.admits (s.outputs patterns env) =
      lockLog.admits (s'.outputs patterns env') := by
    funext e
    rw [Bool.eq_iff_iff, lockLog_admits_iff, lockLog_admits_iff]
  have hmem := lockLog_mem_outputs hs patterns env
  have hmem' := lockLog_mem_outputs hs' patterns env'
  have hshows : lockLog.shows (s.outputs patterns env) =
      lockLog.shows (s'.outputs patterns env') := by
    funext outer span
    rw [Bool.eq_iff_iff, lockLog_shows_iff hmem, lockLog_shows_iff hmem']
  refine (LogOutput.tells_lines hshows hadmits stamp events).eq_iff.trans ?_
  simp only [LogOutput.Agree, List.nil_append, lockLog_admits_iff, lockLog_shows_iff hmem,
    isColored_outputs hs, isColored_outputs hs']

/-- Without color the file gets the same whatever else is set. -/
theorem lockText_eq_of_plain (hs : s.file = true) (hs' : s'.file = true)
    (h : s.console = false ∨ hasColor env = false)
    (h' : s'.console = false ∨ hasColor env' = false) (stamp : String) (events : List Event) :
    s.lockText patterns env stamp events = s'.lockText patterns env' stamp events := by
  refine (lockText_eq_iff hs hs' stamp events).2 fun e _ _ outer span _ _ _ _ => ?_
  have hplain : ∀ {s : LogSettings} {env}, s.console = false ∨ hasColor env = false →
      s.colors patterns env outer span = false := by
    rintro s env (h | h)
    · rw [colors, h, Bool.false_and, Bool.false_and]
    · rw [colors, h, Bool.and_false, Bool.false_and]
  rw [hplain h, hplain h']

end LogSettings

/-! ## The law -/

/-- **The log file of the lock** has a line for each event of the lock's parts of the program, in
their order and whatever their level, and for no other. Two settings fill it alike just when their
consoles treat the spans alike that it shows: both make the words for a span in color, or neither
does. What the patterns in a console's filter mean is left open. -/
theorem lockLog_same_iff {s s' : LogSettings} (hs : s.file = true) (hs' : s'.file = true)
    (patterns : PatternReader) (env env' : List (String × String)) (dir : Place)
    (suffix stamp : String) (events : List Event) (files : FileTree) :
    let path : Place := dir ++ ["lock.log" ++ suffix]
    let after := fun (s : LogSettings) env =>
      (writeLogs (s.outputs patterns env) dir (· ++ suffix) stamp events files).file? path
    (∃ lines, List.Forall₂
        (fun e line => lockLog.line? (s.outputs patterns env) stamp e = some line)
        (events.filter fun e => OfLock e.note.target) lines ∧
      after s env = some (.withMore (files.file? path) (String.join (lines.map (· ++ "\n"))))) ∧
    (after s env = after s' env' ↔
      ∀ e ∈ events, OfLock e.note.target → ∀ outer span inner, e.scope = outer ++ span :: inner →
        OfLock span.target → span.fields ≠ [] →
          s.colors patterns env outer span = s'.colors patterns env' outer span) := by
  intro path after
  have hafter : ∀ {s : LogSettings}, s.file = true → ∀ env, after s env =
      some (.withMore (files.file? path) (s.lockText patterns env stamp events)) :=
    fun hs env => LogSettings.file?_writeLogs hs patterns env dir suffix stamp events files
  refine ⟨⟨lockLog.lines (s.outputs patterns env) stamp events, ?_, hafter hs env⟩, ?_⟩
  · have hfilter : (events.filter fun e => OfLock e.note.target) =
        events.filter (lockLog.admits (s.outputs patterns env)) := by
      refine List.filter_congr fun e _ => ?_
      rw [Bool.eq_iff_iff, decide_eq_true_iff, lockLog_admits_iff]
    rw [hfilter, LogOutput.lines_eq, List.forall₂_map_right_iff, List.forall₂_same]
    intro e he
    have hadmits : lockLog.admits (s.outputs patterns env) e = true := List.of_mem_filter he
    rw [LogOutput.line?, if_pos hadmits]
    rfl
  · rw [hafter hs, hafter hs', Option.some.injEq, Content.withMore_inj]
    exact LogSettings.lockText_eq_iff hs hs' stamp events

/-- The end of a successful acquire. -/
def acquiredEvent : Event :=
  ⟨Verb.note .info "Acquired control plane lock",
    [lockSpan ⟨"ns1", "cl1", "abc-123", "cluster.x-k8s.io/v1beta1", "Cluster"⟩]⟩

/-- Where color is forbidden, neither the console nor what it lets through can be told from the
file. -/
theorem lockLog_same_colorless :
    let s : LogSettings := { dir := "logs", console := false, file := true }
    let s' : LogSettings := { s with console := true, consoleLevel := .error, fileLevel := .trace }
    let file := fun (s : LogSettings) env =>
      (writeLogs (s.outputs .plain env) ["logs"] (· ++ "") "" [acquiredEvent] {}).file?
        (["logs"] ++ ["lock.log" ++ ""])
    s.file = true ∧ s'.file = true ∧
      file s [("NO_COLOR", "1")] = file s' [("NO_COLOR", "1"), ("RUST_LOG", "debug")] := by
  intro s s' file
  have hs : s.file = true := rfl
  have hs' : s'.file = true := rfl
  refine ⟨hs, hs', ?_⟩
  obtain ⟨-, hsame⟩ := lockLog_same_iff hs hs' .plain [("NO_COLOR", "1")]
    [("NO_COLOR", "1"), ("RUST_LOG", "debug")] ["logs"] "" "" [acquiredEvent] {}
  refine hsame.2 fun e _ _ outer span _ _ _ _ => ?_
  have hcolor : LogSettings.hasColor [("NO_COLOR", "1"), ("RUST_LOG", "debug")] = false := by decide
  rw [LogSettings.colors, LogSettings.colors, hcolor]
  rfl

/-- With the console, and with nothing else set otherwise, the words for the span are in color in
the file too. -/
theorem lockLog_colored :
    let s : LogSettings := { dir := "logs", console := false, file := true }
    let file := fun (s : LogSettings) =>
      (writeLogs (s.outputs .plain []) ["logs"] (· ++ "") "" [acquiredEvent] {}).file?
        ["logs", "lock.log"]
    file s = some (.text ("  INFO control_plane_init_lock\x7bnamespace=ns1 cluster_name=cl1 " ++
        "record_name=abc-123-controlplane\x7d: cpinit_lock::service: " ++
        "Acquired control plane lock\n")) ∧
      file { s with console := true } = some (.text (
        "  INFO control_plane_init_lock\x7b\x1b[3mnamespace\x1b[0m\x1b[2m=\x1b[0mns1 " ++
        "\x1b[3mcluster_name\x1b[0m\x1b[2m=\x1b[0mcl1 " ++
        "\x1b[3mrecord_name\x1b[0m\x1b[2m=\x1b[0mabc-123-controlplane\x7d: " ++
        "cpinit_lock::service: Acquired control plane lock\n")) ∧
      file s ≠ file { s with console := true } := by
  decide +kernel

end ClusterLock
