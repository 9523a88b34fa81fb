import ClusterLock.Proofs.Layering
import ClusterLock.Proofs.Verbatim
import ClusterLock.Proofs.WellFormed

/-
  Texts as settings, from the environment and from a file. A file gives a text as it is quoted
  there (`fileHolds_quoted`). A variable gives what its value stands for: `arrives_verbatim_iff`
  has that a getter gives the value of its variable if it is `Verbatim` and only then, while from a
  file it gives every text.
-/
namespace ClusterLock

/-! ## What is put elsewhere -/

/-- The path leads neither to the place of a name, nor into it, nor to the table around it. -/
def SettingName.Avoids (n : SettingName) : List PathStep → Prop
  | .key heading :: .key key :: _ => ¬ (heading = n.heading ∧ key = n.key)
  | .key heading :: _ => heading ≠ n.heading
  | _ => False

theorem at?_assignAt_avoids {n : SettingName} {path : List PathStep} (h : n.Avoids path)
    (v s : Setting) : (v.assignAt path s).at? n.path = s.at? n.path := by
  have hother : ∀ {heading : String} {rest : List PathStep}, heading ≠ n.heading →
      (v.assignAt (.key heading :: rest) s).at? n.path = s.at? n.path := by
    intro heading rest hne
    rw [Setting.at?_path, Setting.at?_path, Setting.assignAt, Setting.entries_table,
      lookup_putEntry_of_ne (Ne.symm hne)]
  obtain ⟨heading, rest, rfl⟩ : ∃ heading rest, path = .key heading :: rest := by
    cases path with
    | nil => exact absurd h id
    | cons step rest =>
      cases step with
      | index => exact absurd h id
      | key heading => exact ⟨heading, rest, rfl⟩
  cases rest with
  | nil => exact hother h
  | cons step rest =>
    cases step with
    | index => exact hother h
    | key key =>
      by_cases hheading : heading = n.heading
      · have hkey : n.key ≠ key := fun hkey => h ⟨hheading, hkey.symm⟩
        rw [Setting.at?_path, Setting.at?_path, Setting.assignAt, Setting.entries_table, hheading,
          lookup_putEntry_self, Option.bind_some, Setting.assignAt, Setting.entries_table,
          lookup_putEntry_of_ne hkey]
        cases s.entries.lookup n.heading with
        | none => rfl
        | some t => rfl
      · exact hother hheading

/-! ## The variables of an environment -/

/-- What one variable makes of the settings. -/
def applyVariable (e : String × String) (s : Setting) : Setting :=
  match variableKey? e.1 with
  | some key => (Setting.ofVariable e.2).assignAt (pathOfKey key) s
  | none => s

theorem addSource_environment_cons (e : String × String) (env : List (String × String))
    (s : Setting) : addSource (environmentEntries (e :: env)) s =
      addSource (environmentEntries env) (applyVariable e s) := by
  rw [environmentEntries_cons, applyVariable]
  cases variableKey? e.1 <;> rfl

/-- The variable is neither for the name, nor for a place near it. -/
def IsForOther (n : SettingName) (e : String × String) : Prop :=
  ∀ key, variableKey? e.1 = some key → n.Avoids (pathOfKey key)

theorem IsForOther.at? {n : SettingName} {e : String × String} (h : IsForOther n e) (s : Setting) :
    (applyVariable e s).at? n.path = s.at? n.path := by
  rw [applyVariable]
  cases hkey : variableKey? e.1 with
  | none => rfl
  | some key => exact at?_assignAt_avoids (h key hkey) _ s

theorem at?_applyVariable {n : SettingName} (hn : n.Plain)
    (hset : n.isSetBy n.variableName = true) (v : String) (s : Setting) :
    (applyVariable (n.variableName, v) s).at? n.path = some (.ofVariable v) := by
  have hname : variableKey? n.variableName = some n.dotted := eq_of_beq hset
  rw [applyVariable, hname]
  dsimp only
  rw [hn.pathOfKey_dotted, Setting.at?_assignAt _ _ _ (Setting.ofVariable_ne_table v)]

/-- No variable is for the name, nor for a place near it. -/
def SetsNothing (env : List (String × String)) (n : SettingName) : Prop :=
  ∀ e ∈ env, IsForOther n e

theorem SetsNothing.at? {env : List (String × String)} {n : SettingName} (h : SetsNothing env n)
    (s : Setting) : (addSource (environmentEntries env) s).at? n.path = s.at? n.path := by
  induction env generalizing s with
  | nil => rfl
  | cons e env ih =>
    rw [addSource_environment_cons, ih fun e he => h e (List.mem_cons_of_mem _ he),
      (h e List.mem_cons_self).at?]

/-- The only variable for a name, or for a place near it, has that value. -/
structure SetsOnly (env : List (String × String)) (n : SettingName) (v : String) : Prop where
  present : (n.variableName, v) ∈ env
  others : ∀ e ∈ env, e ≠ (n.variableName, v) → IsForOther n e

/-- The value of the variable is what is found at the place, whatever was there before. -/
theorem SetsOnly.at? {env : List (String × String)} {n : SettingName} (hn : n.Plain)
    (hset : n.isSetBy n.variableName = true) {v : String} (h : SetsOnly env n v) (s : Setting) :
    (addSource (environmentEntries env) s).at? n.path = some (.ofVariable v) := by
  -- once the value is there it stays: further variables lead elsewhere, or are the same again
  have hkept : ∀ (env : List (String × String)),
      (∀ e ∈ env, e ≠ (n.variableName, v) → IsForOther n e) → ∀ s : Setting,
      (addSource (environmentEntries env) s).at? n.path =
        if (n.variableName, v) ∈ env then some (.ofVariable v) else s.at? n.path := by
    intro env
    induction env with
    | nil => exact fun _ s => rfl
    | cons e env ih =>
      intro hothers s
      rw [addSource_environment_cons, ih fun e he => hothers e (List.mem_cons_of_mem _ he)]
      by_cases hself : e = (n.variableName, v)
      · rw [hself, if_pos List.mem_cons_self, at?_applyVariable hn hset, ite_self]
      · rw [(hothers e List.mem_cons_self hself).at?]
        simp only [List.mem_cons, Ne.symm hself, false_or]
  rw [hkept env h.others, if_pos h.present]

/-! ## Quoted in a file -/

/-- What the file holds at the place of the name is the text, as a text. -/
def FileHolds (t : FileTree) (file : String) (n : SettingName) (v : String) : Prop :=
  ∃ entries, fileEntries t file = some entries ∧
    (addSource entries (.table [])).at? n.path = some (.text v)

/-- A file with plain keys holds the texts that are read from it. -/
theorem fileHolds_of_fromFile {t : FileTree} {file : String} {entries : List (String × Setting)}
    (hread : fileEntries t file = some entries) (htidy : Tidy entries)
    (hplain : ∀ e ∈ entries, IsPlainKey e.1) {n : SettingName} {v : String}
    (h : fromFile entries n = some (.text v)) : FileHolds t file n v := by
  refine ⟨entries, hread, ?_⟩
  rw [at?_file htidy hplain]
  show (fromFile entries n).map _ = _
  rw [h]
  rfl

/-- A table of tables that sets the name alone, to a quoted text. -/
def SettingName.quoted (n : SettingName) (v : String) : Json :=
  .object [(n.heading, .object [(n.key, .text v)])]

/-- Every text can be quoted in a file of JSON, with blanks anywhere between the parts. -/
theorem fileHolds_quoted {n : SettingName} (hn : n.Plain) {v : String} {t : FileTree}
    {file : String} {c : Content} (hfound : findSettings t file = some (.json, c))
    (hspaced : Spaced (n.quoted v).tokens c.fileText) : FileHolds t file n v := by
  have hread : Json.read c.fileText = .ok (n.quoted v) :=
    json_read_of_spaced ⟨⟨trivial, trivial⟩, trivial⟩
      ⟨by decide, ⟨⟨by decide, ⟨trivial, trivial⟩⟩, trivial⟩⟩ hspaced
  have hentries : fileEntries t file = some [(n.heading, .table [(n.key, .text v)])] := by
    rw [fileEntries, hfound]
    show Format.readJson c.fileText = _
    rw [Format.readJson, hread]
    rfl
  have htidy : Tidy [(n.heading, .table [(n.key, .text v)])] := by
    refine ⟨by simp, fun k es hmem => ?_⟩
    cases List.mem_singleton.1 hmem
    simp
  refine fileHolds_of_fromFile hentries htidy (by simpa using hn.1) ?_
  simp [fromFile, Setting.at?_path]

/-! ## Getters of texts -/

/-- The answer is the text. -/
def Answer.Says (v : String) : Answer → Prop
  | text s => s = v
  | optional s => s = some v
  | flag _ => False

namespace Getter

/-- The getters but for those of truth values. -/
def texts : List Getter := all.filter fun g => g.name ∉ [.logConsole, .logFile]

theorem texts_eq : texts =
    [text .logLevel Configuration.logLevel "info",
      optional .logDir Configuration.logDir fun _ => true,
      text .logRotation Configuration.logRotation "daily",
      optional .kubeContext Configuration.kubeContext (· ≠ ""),
      text .clusterGroup Configuration.clusterGroup "cluster.x-k8s.io",
      text .clusterVersion Configuration.clusterVersion "v1beta1",
      text .clusterKind Configuration.clusterKind "Cluster",
      text .clusterPlural Configuration.clusterPlural "clusters"] := rfl

theorem mem_all_of_mem_texts {g : Getter} (h : g ∈ texts) : g ∈ all := (List.mem_filter.1 h).1

/-- A getter says the text that the value is printed as; only the context may not be empty. -/
theorem says_iff {w : Setting} {s v : String} (hs : w.text? = some s) :
    ∀ g ∈ texts, (g.name = .kubeContext → v ≠ "") → ((g.ofValue (some w)).Says v ↔ s = v) := by
  have hcontext : v ≠ "" → ((some s).filter (· ≠ "") = some v ↔ s = v) := by
    intro hv
    rw [Option.filter_eq_some_iff, Option.some.injEq]
    exact ⟨fun h => h.1, fun h => ⟨h, by simpa using hv⟩⟩
  have hdir : (some s).filter (fun _ => true) = some v ↔ s = v := by simp
  rw [texts_eq]
  simp only [List.forall_mem_cons, text, optional, Answer.Says, Option.bind_some, Option.getD_some,
    hs]
  exact ⟨fun _ => trivial, fun _ => hdir, fun _ => trivial, fun hv => hcontext (hv trivial),
    fun _ => trivial, fun _ => trivial, fun _ => trivial, fun _ => trivial,
    fun _ h => absurd h List.not_mem_nil⟩

/-- Two answers of a getter are the same if both say the same text. -/
theorem eq_iff_says {conf conf' : Configuration} {v : String} :
    ∀ g ∈ texts, (g.get conf').Says v → (g.get conf = g.get conf' ↔ (g.get conf).Says v) := by
  have htext : ∀ get : Configuration → String, get conf' = v →
      (Answer.text (get conf) = .text (get conf') ↔ get conf = v) := by
    intro get h
    rw [Answer.text.injEq, h]
  have hoptional : ∀ get : Configuration → Option String, get conf' = some v →
      (Answer.optional (get conf) = .optional (get conf') ↔ get conf = some v) := by
    intro get h
    rw [Answer.optional.injEq, h]
  rw [texts_eq]
  simp only [List.forall_mem_cons, text, optional, Answer.Says]
  exact ⟨htext _, hoptional _, htext _, hoptional _, htext _, htext _, htext _, htext _,
    fun _ h => absurd h List.not_mem_nil⟩

end Getter

/-! ## The configuration -/

/-- With no option for the name, what is found there comes from the environment and the file. -/
theorem Configuration.at?_layer_of_none {cli : CommandLine} {n : SettingName}
    (h : fromCommandLine cli n = none) (file env : List (String × Setting)) :
    (layer file env cli).at? n.path = (addSource env (addSource file (.table []))).at? n.path := by
  unfold fromCommandLine at h
  rw [layer, at?_override, at?_override]
  by_cases hlevel : n = .logLevel
  · rw [if_pos hlevel] at h
    rw [if_pos hlevel, if_neg (by rw [hlevel]; decide), h]
    rfl
  · rw [if_neg hlevel] at h
    rw [if_neg hlevel, h]
    rfl

/-- **Texts from the environment.** Where only its variable is for a setting, a configuration can be
built, and the getter gives the value of the variable just if that is verbatim: so it is for values
without digits, but for a few words, and for whole numbers in their usual digits and no others.
From a file that holds the same text the getter gives the text in any case. -/
theorem arrives_verbatim_iff {g : Getter} (hg : g ∈ Getter.texts) {v : String}
    (hv : g.name = .kubeContext → v ≠ "") {t : FileTree} {env : List (String × String)}
    {cli : CommandLine} (hread : (fileEntries t cli.configFile).isSome = true)
    (henv : SetsOnly env g.name v) (hcli : fromCommandLine cli g.name = none) :
    ∃ conf, Configuration.build t env true cli = .ok conf ∧
      ((g.get conf).Says v ↔ Verbatim v) ∧
      ((∀ c ∈ v.toList, c.isDigit = false) → ¬ IsWord v → (g.get conf).Says v) ∧
      (∀ n, readInt64? v.toList = some n → ((g.get conf).Says v ↔ UsualInt v)) ∧
      ∀ (t' : FileTree) (env' : List (String × String)) (cli' : CommandLine),
        FileHolds t' cli'.configFile g.name v → SetsNothing env' g.name →
        fromCommandLine cli' g.name = none →
        ∃ conf', Configuration.build t' env' true cli' = .ok conf' ∧ (g.get conf').Says v ∧
          (g.get conf = g.get conf' ↔ Verbatim v) := by
  have hall := Getter.mem_all_of_mem_texts hg
  have hplain := (Getter.plain_name g hall).1
  obtain ⟨file, hfile⟩ := Option.isSome_iff_exists.1 hread
  obtain ⟨s, hs, hself⟩ := text?_ofVariable v
  have hsays : (g.get ⟨Configuration.layer file (environmentEntries env) cli,
      env.lookup "HOME"⟩).Says v ↔ Verbatim v := by
    rw [Getter.get_eq _ g hall, Configuration.at?_layer_of_none hcli,
      henv.at? hplain (Getter.isSetBy_variableName g hall), Getter.says_iff hs g hg hv, hself]
  refine ⟨_, ?_, hsays, fun hdigits hword => hsays.2 (verbatim_of_letters hdigits hword),
    fun n hn => hsays.trans (verbatim_iff_usualInt hn),
    fun t' env' cli' hholds hnothing hcli' => ?_⟩
  · rw [Configuration.build, hfile]
    rfl
  · obtain ⟨file', hfile', hat⟩ := hholds
    have hsays' : (g.get ⟨Configuration.layer file' (environmentEntries env') cli',
        env'.lookup "HOME"⟩).Says v := by
      rw [Getter.get_eq _ g hall, Configuration.at?_layer_of_none hcli', hnothing.at?, hat,
        Getter.says_iff rfl g hg hv]
    refine ⟨_, ?_, hsays', (Getter.eq_iff_says g hg hsays').trans hsays⟩
    rw [Configuration.build, hfile']
    rfl

/-- The version of the clusters. -/
def versionGetter : Getter := .text .clusterVersion Configuration.clusterVersion "v1beta1"

/-- The command line of a query, with that file for settings. -/
def queryLine (file : String) : CommandLine :=
  ⟨file, none, none, ⟨.probe, ⟨"ns1", "cl1", some "abc-123", none, none, false⟩⟩⟩

/-- JSON that quotes the text `1.5`. -/
def quotedVersion : Content := .text "\x7b\"cluster\":\x7b\"version\":\"1.5\"\x7d\x7d"

/-- A file with the version `v1`, and one that quotes another. -/
def versionFiles : FileTree :=
  .ofList [] [("conf/cpinit.yml", some (.text "cluster:\n  version: v1\n")),
    ("conf/cpinit.json", some quotedVersion)]

theorem arrives_verbatim_version :
    ∃ conf conf',
      Configuration.build versionFiles [("HOME", "/root"), ("CPINIT_CLUSTER__VERSION", "1.5")] true
        (queryLine "conf/cpinit.yml") = .ok conf ∧
      Configuration.build versionFiles [] true (queryLine "conf/cpinit.json") = .ok conf' ∧
      conf.clusterVersion = "1.5" ∧ conf'.clusterVersion = "1.5" := by
  have hverbatim : Verbatim "1.5" := by
    have hint : readInt64? "1.5".toList = none := by decide +kernel
    have hreal : (Real64.read? "1.5".toList).map Real64.toText = some "1.5" := by decide +kernel
    refine ⟨fun h => absurd h (by decide +kernel), fun h => ?_, fun x _ h => ?_⟩
    · rw [hint] at h
      cases h
    · rw [h] at hreal
      exact (Option.some.inj hreal).symm
  have henv : SetsOnly [("HOME", "/root"), ("CPINIT_CLUSTER__VERSION", "1.5")] versionGetter.name
      "1.5" := by
    have hname : versionGetter.name.variableName = "CPINIT_CLUSTER__VERSION" := by decide +kernel
    have hhome : variableKey? "HOME" = none := by decide +kernel
    refine ⟨by simp [hname], fun e he hne key hkey => ?_⟩
    simp only [List.mem_cons, List.not_mem_nil, or_false] at he
    rcases he with rfl | rfl
    · cases hhome.symm.trans hkey
    · exact absurd (by rw [hname]) hne
  have hquoted : FileHolds versionFiles "conf/cpinit.json" versionGetter.name "1.5" := by
    have hfound : findSettings versionFiles "conf/cpinit.json" = some (.json, quotedVersion) := by
      decide +kernel
    have htext : (versionGetter.name.quoted "1.5").tokens.flatten =
        quotedVersion.fileText := by decide +kernel
    exact fileHolds_quoted (by decide +kernel) hfound (htext ▸ spaced_flatten _)
  obtain ⟨conf, hbuild, hsays, -, -, hfile⟩ := arrives_verbatim_iff (g := versionGetter)
    (by simp [Getter.texts_eq, versionGetter]) (v := "1.5") (fun _ => by decide) (t := versionFiles)
    (by decide +kernel) henv
    (rfl : fromCommandLine (queryLine "conf/cpinit.yml") .clusterVersion = none)
  obtain ⟨conf', hbuild', hsays', -⟩ := hfile versionFiles [] (queryLine "conf/cpinit.json") hquoted
    (fun _ h => absurd h List.not_mem_nil) rfl
  exact ⟨conf, conf', hbuild, hbuild', hsays.2 hverbatim, hsays'⟩

/-- A file that quotes the text `007`. -/
def zerosFiles : FileTree :=
  .ofList [] [("conf/cpinit.yml", some (.text "kube:\n  context: \"007\"\n"))]

/-- A context loses its zeros in the environment; in a file and on the command line it keeps
them. -/
theorem context_loses_zeros :
    (Configuration.build {} [("CPINIT_KUBE__CONTEXT", "007")] true
        (queryLine "conf/cpinit.yml")).toOption.map Configuration.kubeContext = some (some "7") ∧
      (Configuration.build zerosFiles [] true
        (queryLine "conf/cpinit.yml")).toOption.map Configuration.kubeContext =
          some (some "007") ∧
      (Configuration.build {} [] true
        { queryLine "conf/cpinit.yml" with context := some "007" }).toOption.map
          Configuration.kubeContext = some (some "007") := by
  decide +kernel

end ClusterLock
