import ClusterLock.Config.Configuration
import ClusterLock.Config.Environment
import ClusterLock.Proofs.Spelling

/-
  How settings come together from a file, the environment and the command line. What is put at one
  place changes nothing at the others (`at?_assignAt_of_ne`); what a whole source puts there follows
  by induction on its entries (`at?_environment`, `at?_file`). `layering` says that each getter of a
  configuration goes by the highest source that sets its key and by nothing else.
-/
namespace ClusterLock

/-! ## Keys -/

/-- A key without points and brackets, so that it names one place. -/
def IsPlainKey (key : String) : Prop := key ≠ "" ∧ ∀ c ∈ key.toList, isKeyChar c = true

instance (key : String) : Decidable (IsPlainKey key) :=
  have : Decidable (∀ c ∈ key.toList, isKeyChar c = true) := List.decidableBAll _ key.toList
  inferInstanceAs (Decidable (_ ∧ _))

/-- The name of a step goes as far as the point or the bracket after it. -/
theorem pathSteps?_name {key : String} (h : IsPlainKey key) {rest : List Char}
    (hrest : ∀ c, rest.head? = some c → isKeyChar c = false) (fuel : Nat) :
    pathSteps? (fuel + 1) ('.' :: (key.toList ++ rest)) =
      (pathSteps? fuel rest).map (.key key :: ·) := by
  have hne : key.toList ≠ [] := by simpa using h.1
  rw [pathSteps?, span_of_class h.2 hrest]
  simp [hne]

theorem pathSteps?_last {key : String} (h : IsPlainKey key) (fuel : Nat) :
    pathSteps? (fuel + 1) ('.' :: key.toList) = some [.key key] := by
  have hname : pathSteps? (fuel + 1) ('.' :: (key.toList ++ [])) =
      (pathSteps? fuel []).map (.key key :: ·) := pathSteps?_name h (by simp) fuel
  rw [List.append_nil] at hname
  rw [hname, pathSteps?]
  rfl

/-- A plain key names one step. -/
theorem pathOfKey_plain {key : String} (h : IsPlainKey key) : pathOfKey key = [.key key] := by
  rw [pathOfKey, pathSteps?_last h]
  rfl

namespace SettingName

/-- The name as the key of a variable. -/
def dotted (n : SettingName) : String := n.heading ++ "." ++ n.key

/-- Both parts of the name are plain. -/
def Plain (n : SettingName) : Prop := IsPlainKey n.heading ∧ IsPlainKey n.key

instance (n : SettingName) : Decidable n.Plain := inferInstanceAs (Decidable (_ ∧ _))

/-- A dotted name names two steps. -/
theorem Plain.pathOfKey_dotted {n : SettingName} (h : n.Plain) :
    pathOfKey n.dotted = n.path.map .key := by
  have htext : n.dotted.toList = n.heading.toList ++ '.' :: n.key.toList := by
    simp [dotted, String.toList_append]
  have hfuel : n.dotted.toList.length + 1 =
      n.heading.toList.length + n.key.toList.length + 1 + 1 := by
    rw [htext, List.length_append, List.length_cons]
    omega
  have hpoint : ∀ c, ('.' :: n.key.toList).head? = some c → isKeyChar c = false := by
    intro c hc
    cases hc
    decide
  rw [pathOfKey, hfuel, htext, pathSteps?_name h.1 hpoint, pathSteps?_last h.2]
  rfl

/-- The variable for a setting. -/
def variableName (n : SettingName) : String :=
  "CPINIT_" ++ n.heading.toUpper ++ "__" ++ n.key.toUpper

end SettingName

/-! ## What is put at one place -/

namespace Setting

@[simp] theorem entries_table (es : List (String × Setting)) : (table es).entries = es := rfl

theorem at?_path (n : SettingName) (s : Setting) :
    s.at? n.path = (s.entries.lookup n.heading).bind fun t => t.entries.lookup n.key := by
  simp [SettingName.path, at?]

theorem assignAt_key (v : Setting) (k : String) (s : Setting) :
    v.assignAt [.key k] s =
      table (putEntry k (v.replacing ((s.entries.lookup k).getD nil)) s.entries) := rfl

theorem assignAt_path (v : Setting) (m : SettingName) (s : Setting) :
    v.assignAt (m.path.map .key) s =
      table (putEntry m.heading (v.assignAt [.key m.key] ((s.entries.lookup m.heading).getD nil))
        s.entries) := rfl

variable (v s : Setting) {n : SettingName}

/-- What is put under a key of the top is nothing to the other headings. -/
theorem at?_assignAt_key {k : String} (h : n.heading ≠ k) :
    (v.assignAt [.key k] s).at? n.path = s.at? n.path := by
  rw [at?_path, at?_path, assignAt_key, entries_table, lookup_putEntry_of_ne h]

/-- What is put at the place of one name is nothing to the other names. -/
theorem at?_assignAt_of_ne {m : SettingName} (h : n ≠ m) :
    (v.assignAt (m.path.map .key) s).at? n.path = s.at? n.path := by
  rw [at?_path, at?_path, assignAt_path, entries_table]
  by_cases hheading : n.heading = m.heading
  · have hkey : n.key ≠ m.key := by
      intro hkey
      obtain ⟨heading, key⟩ := n
      obtain ⟨heading', key'⟩ := m
      cases hheading
      cases hkey
      exact h rfl
    rw [hheading, lookup_putEntry_self, Option.bind_some, assignAt_key, entries_table,
      lookup_putEntry_of_ne hkey]
    cases s.entries.lookup m.heading with
    | none => rfl
    | some t => rfl
  · rw [lookup_putEntry_of_ne hheading]

/-- Tables are no texts, however they are merged. -/
theorem text?_replacing (old : Setting) : (v.replacing old).text? = v.text? := by
  cases v <;> rfl

theorem bool?_replacing (old : Setting) : (v.replacing old).bool? = v.bool? := by
  cases v <;> rfl

/-- What is read does not depend on whether a value has been merged into nothing. -/
theorem bind_or_replacing {α : Type} {read : Setting → Option α}
    (hread : ∀ v : Setting, read (v.replacing nil) = read v) (v w : Option Setting) :
    (v.or (w.map (·.replacing nil))).bind read = (v.or w).bind read := by
  cases v with
  | some v => rfl
  | none =>
    cases w with
    | some w => exact hread w
    | none => rfl

theorem ofVariable_ne_table (value : String) (es : List (String × Setting)) :
    ofVariable value ≠ table es := by
  unfold ofVariable
  dsimp only
  split
  · simp
  · split
    · simp
    · split
      · simp
      · split <;> simp

end Setting

/-! ## The environment -/

/-- The variable is for the setting of that name. -/
def SettingName.isSetBy (n : SettingName) (variableName : String) : Bool :=
  variableKey? variableName == some n.dotted

/-- What the environment sets a name to. -/
def fromEnvironment (env : List (String × String)) (n : SettingName) : Option Setting :=
  (env.find? fun e => n.isSetBy e.1).map fun e => .ofVariable e.2

/-- The variables for settings are for names of two plain parts, but for the one that names the
file with settings. -/
def NamesSettings (env : List (String × String)) : Prop :=
  ∀ e ∈ env, ∀ key, variableKey? e.1 = some key →
    key = "config" ∨ ∃ m : SettingName, m.Plain ∧ key = m.dotted

theorem environmentEntries_cons (name value : String) (env : List (String × String)) :
    environmentEntries ((name, value) :: env) =
      match variableKey? name with
      | some key => (key, .ofVariable value) :: environmentEntries env
      | none => environmentEntries env := by
  cases h : variableKey? name with
  | some key => simp only [environmentEntries, List.filterMap_cons, h, Option.map_some]
  | none => simp only [environmentEntries, List.filterMap_cons, h, Option.map_none]

section

variable {n : SettingName} (hn : n.Plain) (hconfig : n.heading ≠ "config")

include hconfig

/-- A variable for another name puts nothing at this one. -/
theorem at?_assignAt_other {key : String}
    (hkey : key = "config" ∨ ∃ m : SettingName, m.Plain ∧ key = m.dotted) (hne : key ≠ n.dotted)
    (v s : Setting) : (v.assignAt (pathOfKey key) s).at? n.path = s.at? n.path := by
  rcases hkey with rfl | ⟨m, hm, rfl⟩
  · rw [pathOfKey_plain (by decide +kernel)]
    exact Setting.at?_assignAt_key v s hconfig
  · rw [hm.pathOfKey_dotted]
    refine Setting.at?_assignAt_of_ne v s ?_
    rintro rfl
    exact hne rfl

include hn

/-- What an environment puts at a name that at most one variable is for. -/
theorem at?_environment {env : List (String × String)} (hnames : NamesSettings env)
    (honce : env.countP (fun e => n.isSetBy e.1) ≤ 1) (s : Setting) :
    (addSource (environmentEntries env) s).at? n.path =
      (fromEnvironment env n).or (s.at? n.path) := by
  induction env generalizing s with
  | nil => rfl
  | cons e env ih =>
    obtain ⟨name, value⟩ := e
    have hnames' : NamesSettings env := fun e he => hnames e (List.mem_cons_of_mem _ he)
    rw [List.countP_cons] at honce
    rw [environmentEntries_cons, fromEnvironment, List.find?_cons]
    cases hkey : variableKey? name with
    | none =>
      have hother : n.isSetBy name = false := by simp [SettingName.isSetBy, hkey]
      rw [hother]
      exact ih hnames' (by omega) s
    | some key =>
      have hput : ∀ s, (addSource ((key, .ofVariable value) :: environmentEntries env) s) =
          addSource (environmentEntries env)
            ((Setting.ofVariable value).assignAt (pathOfKey key) s) := fun _ => rfl
      dsimp only
      rw [hput]
      by_cases hself : key = n.dotted
      · -- no variable after it is for the name
        subst hself
        have hfor : n.isSetBy name = true := by simp [SettingName.isSetBy, hkey]
        rw [hfor, if_pos rfl] at honce
        have hnone : fromEnvironment env n = none := by
          rw [fromEnvironment, Option.map_eq_none_iff, List.find?_eq_none]
          exact List.countP_eq_zero.1 (by omega)
        rw [hfor, ih hnames' (by omega), hnone, hn.pathOfKey_dotted,
          Setting.at?_assignAt _ _ _ (Setting.ofVariable_ne_table value)]
        rfl
      · have hother : n.isSetBy name = false := by simp [SettingName.isSetBy, hkey, hself]
        rw [hother, ih hnames' (by omega),
          at?_assignAt_other hconfig (hnames _ List.mem_cons_self key hkey) hself]
        rfl

end

/-! ## The file -/

/-- The keys of the entries, and those in each table among them, are all different. -/
structure Tidy (es : List (String × Setting)) : Prop where
  keys : (es.map (·.1)).Nodup
  inner : ∀ k es', (k, .table es') ∈ es → (es'.map (·.1)).Nodup

/-- What merging puts under a key. -/
theorem lookup_mergeEntries {es : List (String × Setting)} (hn : (es.map (·.1)).Nodup)
    (base : List (String × Setting)) (k : String) :
    (mergeEntries es base).lookup k =
      ((es.lookup k).map fun v => v.replacing ((base.lookup k).getD .nil)).or (base.lookup k) := by
  induction es generalizing base with
  | nil => rfl
  | cons e es ih =>
    obtain ⟨k', v⟩ := e
    rw [List.map_cons, List.nodup_cons] at hn
    rw [mergeEntries, ih hn.2, List.lookup_cons]
    by_cases hk : k = k'
    · subst hk
      have hnone : es.lookup k = none := by
        rw [List.lookup_eq_none_iff]
        intro e he
        have hne : k ≠ e.1 := fun h => hn.1 (List.mem_map.2 ⟨e, he, h.symm⟩)
        simpa using hne
      simp [hnone]
    · have hb : (k == k') = false := by simpa using hk
      rw [hb, lookup_putEntry_of_ne hk]

/-- A file whose keys are plain is merged key by key. -/
theorem addSource_plain {es : List (String × Setting)} (h : ∀ e ∈ es, IsPlainKey e.1)
    (base : List (String × Setting)) :
    addSource es (.table base) = .table (mergeEntries es base) := by
  induction es generalizing base with
  | nil => rfl
  | cons e es ih =>
    obtain ⟨k, v⟩ := e
    have hput : addSource ((k, v) :: es) (.table base) =
        addSource es (v.assignAt (pathOfKey k) (.table base)) := rfl
    rw [hput, pathOfKey_plain (h _ List.mem_cons_self), Setting.assignAt_key,
      ih fun e he => h e (List.mem_cons_of_mem _ he)]
    rfl

/-- What a file puts at a name. -/
theorem at?_file {file : List (String × Setting)} (htidy : Tidy file)
    (hplain : ∀ e ∈ file, IsPlainKey e.1) (n : SettingName) :
    (addSource file (.table [])).at? n.path =
      ((Setting.table file).at? n.path).map (·.replacing .nil) := by
  rw [addSource_plain hplain, Setting.at?_path, Setting.at?_path, Setting.entries_table,
    Setting.entries_table, lookup_mergeEntries htidy.keys]
  cases hv : file.lookup n.heading with
  | none => rfl
  | some v =>
    show (v.replacing .nil).entries.lookup n.key =
      (v.entries.lookup n.key).map (·.replacing .nil)
    cases v with
    | table es =>
      obtain ⟨before, after, hmem, -⟩ := List.lookup_eq_some_iff.1 hv
      have hes : (es.map (·.1)).Nodup := htidy.inner n.heading es (by simp [hmem])
      rw [Setting.replacing, Setting.entries_table, Setting.entries_table, lookup_mergeEntries hes]
      simp [Setting.entries]
    | _ => rfl

/-! ## What is read from YAML -/

theorem mem_putEntry {k : String} {v : Setting} {es : List (String × Setting)}
    {e : String × Setting} (h : e ∈ putEntry k v es) : e = (k, v) ∨ e ∈ es := by
  induction es with
  | nil => exact Or.inl (List.mem_singleton.1 h)
  | cons e' es ih =>
    obtain ⟨k', w⟩ := e'
    unfold putEntry at h
    split at h
    · exact (List.mem_cons.1 h).imp_right (List.mem_cons_of_mem _)
    · rcases List.mem_cons.1 h with h | h
      · exact Or.inr (h ▸ List.mem_cons_self)
      · exact (ih h).imp_right (List.mem_cons_of_mem _)

theorem nodup_putEntry {es : List (String × Setting)} (h : (es.map (·.1)).Nodup) (k : String)
    (v : Setting) : ((putEntry k v es).map (·.1)).Nodup := by
  induction es with
  | nil => simp [putEntry]
  | cons e es ih =>
    obtain ⟨k', w⟩ := e
    rw [List.map_cons, List.nodup_cons] at h
    unfold putEntry
    split
    · rename_i hk
      rw [List.map_cons, List.nodup_cons, ← hk]
      exact h
    · rename_i hk
      rw [List.map_cons, List.nodup_cons]
      refine ⟨fun hmem => ?_, ih h.2⟩
      obtain ⟨e, he, hke⟩ := List.mem_map.1 hmem
      rcases mem_putEntry he with rfl | he
      · exact hk hke.symm
      · exact h.1 (List.mem_map.2 ⟨e, he, hke⟩)

/-- The keys of entries that are read from YAML are all different: the last of a name counts. -/
theorem nodup_settingsOfEntries {entries : List (Yaml.Value × Yaml.Value)}
    {es es' : List (String × Setting)} (h : settingsOfEntries entries es = some es')
    (hn : (es.map (·.1)).Nodup) : (es'.map (·.1)).Nodup := by
  induction entries generalizing es with
  | nil =>
    cases h
    exact hn
  | cons kv entries ih =>
    obtain ⟨k, v⟩ := kv
    simp only [settingsOfEntries, Option.bind_eq_bind, Option.bind_eq_some_iff] at h
    obtain ⟨key, -, value, -, h⟩ := h
    exact ih h (nodup_putEntry hn key value)

theorem nodup_of_ofYaml? {v : Yaml.Value} {es : List (String × Setting)}
    (h : Setting.ofYaml? v = some (.table es)) : (es.map (·.1)).Nodup := by
  cases v with
  | table entries =>
    simp only [Setting.ofYaml?, Option.map_eq_some_iff, Setting.table.injEq] at h
    obtain ⟨es', hes', rfl⟩ := h
    exact nodup_settingsOfEntries hes' List.nodup_nil
  | _ => simp [Setting.ofYaml?] at h

theorem Tidy.settingsOfEntries {entries : List (Yaml.Value × Yaml.Value)}
    {es es' : List (String × Setting)} (hes : Tidy es)
    (h : settingsOfEntries entries es = some es') : Tidy es' := by
  induction entries generalizing es with
  | nil =>
    cases h
    exact hes
  | cons kv entries ih =>
    obtain ⟨k, v⟩ := kv
    simp only [ClusterLock.settingsOfEntries, Option.bind_eq_bind, Option.bind_eq_some_iff] at h
    obtain ⟨key, -, value, hvalue, h⟩ := h
    refine ih ⟨nodup_putEntry hes.keys key value, fun k es' hmem => ?_⟩ h
    rcases mem_putEntry hmem with heq | hmem
    · cases heq
      exact nodup_of_ofYaml? hvalue
    · exact hes.inner k es' hmem

theorem tidy_readYaml {cs : List Char} {file : List (String × Setting)}
    (h : Format.readYaml cs = some file) : Tidy file := by
  have hempty : Tidy [] := ⟨List.nodup_nil, fun _ _ h => absurd h List.not_mem_nil⟩
  unfold Format.readYaml at h
  split at h
  · cases h
    exact hempty
  · exact hempty.settingsOfEntries h
  · cases h

/-! ## Getters -/

/-- What a getter of a configuration gives. -/
inductive Answer
  | text (s : String)
  | optional (s : Option String)
  | flag (b : Bool)

/-- A getter by the name of its setting, with what it is to give when a value decides it, or when no
value does. -/
structure Getter where
  name : SettingName
  get : Configuration → Answer
  ofValue : Option Setting → Answer

namespace Getter

/-- A getter of a text that has a default. -/
def text (name : SettingName) (get : Configuration → String) (default : String) : Getter :=
  ⟨name, fun c => .text (get c), fun v => .text ((v.bind Setting.text?).getD default)⟩

/-- A getter of a truth value that has a default. -/
def flag (name : SettingName) (get : Configuration → Bool) (default : Bool) : Getter :=
  ⟨name, fun c => .flag (get c), fun v => .flag ((v.bind Setting.bool?).getD default)⟩

/-- A getter of a text or none; some texts count as none. -/
def optional (name : SettingName) (get : Configuration → Option String) (counts : String → Bool) :
    Getter :=
  ⟨name, fun c => .optional (get c), fun v => .optional ((v.bind Setting.text?).filter counts)⟩

/-- The getters of the documented settings. -/
def all : List Getter :=
  [text .logLevel Configuration.logLevel "info",
    optional .logDir Configuration.logDir fun _ => true,
    flag .logConsole Configuration.logConsole true,
    flag .logFile Configuration.logFile false,
    text .logRotation Configuration.logRotation "daily",
    optional .kubeContext Configuration.kubeContext (· ≠ ""),
    text .clusterGroup Configuration.clusterGroup "cluster.x-k8s.io",
    text .clusterVersion Configuration.clusterVersion "v1beta1",
    text .clusterKind Configuration.clusterKind "Cluster",
    text .clusterPlural Configuration.clusterPlural "clusters"]

theorem plain_name : ∀ g ∈ all, g.name.Plain ∧ g.name.heading ≠ "config" := by
  simp only [all, List.forall_mem_cons, text, flag, optional]
  decide +kernel

/-- `CPINIT_LOG__LEVEL` sets the level of the log, and so on. -/
theorem isSetBy_variableName : ∀ g ∈ all, g.name.isSetBy g.name.variableName = true := by
  simp only [all, List.forall_mem_cons, text, flag, optional]
  decide +kernel

/-- A getter looks at the setting of its name and at nothing else. -/
theorem get_eq (conf : Configuration) :
    ∀ g ∈ all, g.get conf = g.ofValue (conf.settings.at? g.name.path) := by
  have hdir : conf.logDir = (conf.text? .logDir).filter fun _ => true := by
    rw [Configuration.logDir]
    cases conf.text? .logDir <;> rfl
  simp only [all, List.forall_mem_cons, text, flag, optional, hdir]
  exact ⟨rfl, rfl, rfl, rfl, rfl, rfl, rfl, rfl, rfl, rfl, fun _ h => absurd h List.not_mem_nil⟩

/-- A getter gives the same for values that are the same as a text and as a truth value. -/
theorem ofValue_congr {v w : Option Setting} (htext : v.bind Setting.text? = w.bind Setting.text?)
    (hbool : v.bind Setting.bool? = w.bind Setting.bool?) :
    ∀ g ∈ all, g.ofValue v = g.ofValue w := by
  simp [all, text, flag, optional, htext, hbool]

end Getter

/-! ## Which source decides -/

/-- What settings can come from. -/
structure Sources where
  cli : CommandLine
  env : List (String × String)
  file : List (String × Setting)

/-- What the command line sets a name to. -/
def fromCommandLine (cli : CommandLine) (n : SettingName) : Option Setting :=
  if n = .logLevel then cli.logLevel.map .text
  else if n = .kubeContext then cli.context.map .text
  else none

/-- What a file sets a name to. -/
def fromFile (file : List (String × Setting)) (n : SettingName) : Option Setting :=
  (Setting.table file).at? n.path

namespace Sources

/-- What the highest source sets a name to that sets it. -/
def deciding (x : Sources) (n : SettingName) : Option Setting :=
  ((fromCommandLine x.cli n).or (fromEnvironment x.env n)).or (fromFile x.file n)

/-- The highest source that sets the name sets it to the same. What lower sources set it to, and
what any source sets other names to, may differ. -/
structure SettleAlike (x y : Sources) (n : SettingName) : Prop where
  commandLine : fromCommandLine x.cli n = fromCommandLine y.cli n
  environment : fromCommandLine x.cli n = none → fromEnvironment x.env n = fromEnvironment y.env n
  file : fromCommandLine x.cli n = none → fromEnvironment x.env n = none →
    fromFile x.file n = fromFile y.file n

theorem SettleAlike.deciding_eq {x y : Sources} {n : SettingName} (h : x.SettleAlike y n) :
    x.deciding n = y.deciding n := by
  unfold deciding
  rw [← h.commandLine]
  cases hcli : fromCommandLine x.cli n with
  | some v => rfl
  | none =>
    rw [← h.environment hcli]
    cases henv : fromEnvironment x.env n with
    | some v => rfl
    | none => rw [h.file hcli henv]

/-- The sources of a run: the command line, variables of which at most one is for each documented
setting, and the file that the command line names, which is not there or is a YAML file whose keys
are plain. -/
structure Found (x : Sources) (t : FileTree) : Prop where
  yaml : findSettings t x.cli.configFile = none ∨
    ∃ content, findSettings t x.cli.configFile = some (.yaml, content)
  read : fileEntries t x.cli.configFile = some x.file
  plain : ∀ e ∈ x.file, IsPlainKey e.1
  named : NamesSettings x.env
  once : ∀ g ∈ Getter.all, x.env.countP (fun e => g.name.isSetBy e.1) ≤ 1

theorem Found.tidy {x : Sources} {t : FileTree} (h : x.Found t) : Tidy x.file := by
  have hread := h.read
  unfold fileEntries at hread
  rcases h.yaml with hnone | ⟨content, hyaml⟩
  · rw [hnone] at hread
    have hempty : x.file = [] := (Option.some.inj hread).symm
    rw [hempty]
    exact ⟨List.nodup_nil, fun _ _ hmem => absurd hmem List.not_mem_nil⟩
  · rw [hyaml] at hread
    exact tidy_readYaml hread

end Sources

namespace Configuration

/-- What a text from the command line puts at a name. -/
theorem at?_override (name : SettingName) (v : Option String) (s : Setting) (n : SettingName) :
    (override name v s).at? n.path =
      (if n = name then v.map Setting.text else none).or (s.at? n.path) := by
  cases v with
  | none => simp [override]
  | some v =>
    rw [override]
    by_cases h : n = name
    · subst h
      rw [Setting.at?_assignAt _ _ _ (by simp)]
      simp
    · rw [Setting.at?_assignAt_of_ne _ _ h, if_neg h, Option.none_or]

/-- What is found at a name once all sources are laid over each other. -/
theorem at?_layer {x : Sources} (htidy : Tidy x.file) (hplain : ∀ e ∈ x.file, IsPlainKey e.1)
    (hnames : NamesSettings x.env) {n : SettingName} (hn : n.Plain) (hconfig : n.heading ≠ "config")
    (honce : x.env.countP (fun e => n.isSetBy e.1) ≤ 1) :
    (layer x.file (environmentEntries x.env) x.cli).at? n.path =
      ((fromCommandLine x.cli n).or (fromEnvironment x.env n)).or
        ((fromFile x.file n).map (·.replacing .nil)) := by
  have hcli : (if n = .logLevel then x.cli.logLevel.map Setting.text else none).or
      (if n = .kubeContext then x.cli.context.map Setting.text else none) =
        fromCommandLine x.cli n := by
    unfold fromCommandLine
    split
    · rename_i h
      subst h
      cases x.cli.logLevel <;> rfl
    · rw [Option.none_or]
  rw [layer, at?_override, at?_override, at?_environment hn hconfig hnames honce,
    at?_file htidy hplain, ← Option.or_assoc, hcli, ← Option.or_assoc]
  rfl

/-- A configuration can be built from sources that are found, and its getters go by the values that
decide. -/
theorem build_eq {x : Sources} {t : FileTree} (h : x.Found t) :
    ∃ conf, build t x.env true x.cli = .ok conf ∧
      ∀ g ∈ Getter.all, g.get conf = g.ofValue (x.deciding g.name) := by
  refine ⟨⟨layer x.file (environmentEntries x.env) x.cli, x.env.lookup "HOME"⟩, ?_, ?_⟩
  · rw [build, h.read]
    rfl
  · intro g hg
    obtain ⟨hplain, hconfig⟩ := Getter.plain_name g hg
    rw [Getter.get_eq _ g hg, at?_layer h.tidy h.plain h.named hplain hconfig (h.once g hg)]
    exact Getter.ofValue_congr (Setting.bind_or_replacing (fun v => v.text?_replacing .nil) _ _)
      (Setting.bind_or_replacing (fun v => v.bool?_replacing .nil) _ _) g hg

end Configuration

/-- **Layering.** A configuration can be built, and each of its getters goes by the highest source
that sets its key, also if the value there cannot be read: it is the same for all sources that
settle the key alike. -/
theorem layering {x : Sources} {t : FileTree} (h : x.Found t) :
    ∃ conf, Configuration.build t x.env true x.cli = .ok conf ∧
      (∀ g ∈ Getter.all, g.get conf = g.ofValue (x.deciding g.name)) ∧
      ∀ (x' : Sources) (t' : FileTree) (conf' : Configuration), x'.Found t' →
        Configuration.build t' x'.env true x'.cli = .ok conf' →
        ∀ g ∈ Getter.all, x.SettleAlike x' g.name → g.get conf' = g.get conf := by
  obtain ⟨conf, hbuild, hget⟩ := Configuration.build_eq h
  refine ⟨conf, hbuild, hget, fun x' t' conf' h' hbuild' g hg halike => ?_⟩
  obtain ⟨conf'', hbuild'', hget'⟩ := Configuration.build_eq h'
  cases hbuild'.symm.trans hbuild''
  rw [hget' g hg, hget g hg, halike.deciding_eq]

/-- A file that sets the level, the console and the context. -/
def layeredFiles : FileTree :=
  .ofList [] [("conf/cpinit.yml",
    some (.text "log:\n  level: debug\n  console: false\nkube:\n  context: dev\n"))]

/-- The command line sets the level too, the environment the console to what is no truth value and
the context to the empty text. -/
def layeredSources : Sources where
  cli := ⟨"conf/cpinit.yml", none, some "trace", ⟨.probe, ⟨"ns1", "cl1", none, none, none, true⟩⟩⟩
  env := [("CPINIT_LOG__CONSOLE", "maybe"), ("HOME", "/root"), ("CPINIT_KUBE__CONTEXT", ""),
    ("CPINIT_CONFIG", "conf/cpinit.yml")]
  file := (fileEntries layeredFiles "conf/cpinit.yml").getD []

theorem layeredSources_found : layeredSources.Found layeredFiles where
  yaml := by
    refine Or.inr ⟨.text "log:\n  level: debug\n  console: false\nkube:\n  context: dev\n", ?_⟩
    decide +kernel
  read := by
    have hread : (fileEntries layeredFiles "conf/cpinit.yml").isSome = true := by decide +kernel
    obtain ⟨file, hfile⟩ := Option.isSome_iff_exists.1 hread
    show fileEntries layeredFiles "conf/cpinit.yml" =
      some ((fileEntries layeredFiles "conf/cpinit.yml").getD [])
    rw [hfile]
    rfl
  plain := by
    have hkeys : ∀ k ∈ layeredSources.file.map (·.1), IsPlainKey k := by decide +kernel
    exact fun e he => hkeys e.1 (List.mem_map_of_mem he)
  named := by
    have hconsole : variableKey? "CPINIT_LOG__CONSOLE" = some SettingName.logConsole.dotted := by
      decide +kernel
    have hhome : variableKey? "HOME" = none := by decide +kernel
    have hcontext : variableKey? "CPINIT_KUBE__CONTEXT" = some SettingName.kubeContext.dotted := by
      decide +kernel
    have hconfig : variableKey? "CPINIT_CONFIG" = some "config" := by decide +kernel
    intro e he key hkey
    simp only [layeredSources, List.mem_cons, List.not_mem_nil, or_false] at he
    rcases he with rfl | rfl | rfl | rfl
    · cases hconsole.symm.trans hkey
      exact Or.inr ⟨.logConsole, by decide +kernel, rfl⟩
    · cases hhome.symm.trans hkey
    · cases hcontext.symm.trans hkey
      exact Or.inr ⟨.kubeContext, by decide +kernel, rfl⟩
    · cases hconfig.symm.trans hkey
      exact Or.inl rfl
  once := by
    simp only [Getter.all, List.forall_mem_cons, Getter.text, Getter.flag, Getter.optional]
    decide +kernel

theorem layering_emptied :
    ∃ conf, Configuration.build layeredFiles layeredSources.env true layeredSources.cli = .ok conf ∧
      conf.logLevel = "trace" ∧ conf.logConsole = true ∧ conf.kubeContext = none := by
  obtain ⟨conf, hbuild, hget, -⟩ := layering layeredSources_found
  have hlevel : (layeredSources.deciding .logLevel).bind Setting.text? = some "trace" := by
    decide +kernel
  have hconsole : (layeredSources.deciding .logConsole).bind Setting.bool? = none := by
    decide +kernel
  have hcontext : (layeredSources.deciding .kubeContext).bind Setting.text? = some "" := by
    decide +kernel
  simp only [Getter.all, List.forall_mem_cons, Getter.text, Getter.flag, Getter.optional, hlevel,
    hconsole, hcontext] at hget
  obtain ⟨h1, -, h2, -, -, h3, -⟩ := hget
  exact ⟨conf, hbuild, Answer.text.inj h1, Answer.flag.inj h2, Answer.optional.inj h3⟩

end ClusterLock
