import Mathlib.Data.List.Perm.Basic
import Mathlib.Logic.Basic
import ClusterLock.CommandLine.Command
import ClusterLock.Config.Configuration
import ClusterLock.Proofs.OptionWords

/-
  A command line that is accepted names its cluster in one way: by its uid, or by asking for it to
  be fetched (`one_cluster`). The words up to the subcommand are read without looking further
  (`LeadsTo`, `readOptions_eq_atSubcommand_iff`); those after it are written options, and what
  these give is accepted just when it `NamesOneCluster` (`ClusterArgs.ofGiven_eq_ok_iff`), in
  whatever order they stand (`ClusterArgs.read_perm`).
-/
namespace ClusterLock

/-! ## Up to the subcommand -/

section

variable {ι : Type} [DecidableEq ι] {specs : List (OptionSpec ι)} {subcommands : List String}
  {words rest : List String} {word : String} {escaped : Bool} {g g' : Given ι}

/-- What becomes of a word does not depend on those after it: it is refused, it is the subcommand,
or it is taken in. -/
theorem readOptions_cons_cases (specs : List (OptionSpec ι)) (subcommands : List String)
    (word : String) (escaped : Bool) (g : Given ι) :
    (∃ e, ∀ words, readOptions specs subcommands (word :: words) escaped g = .error e) ∨
      (∀ words, readOptions specs subcommands (word :: words) escaped g =
        .ok (g, .atSubcommand word words)) ∨
      ∃ escaped' g', ∀ words, readOptions specs subcommands (word :: words) escaped g =
        readOptions specs subcommands words escaped' g' := by
  -- a step that may fail, and then goes on
  have htry : ∀ x : Except UsageError (Given ι),
      (∃ e, ∀ words, (x >>= readOptions specs subcommands words false) = .error e) ∨
        ∃ escaped' g', ∀ words, (x >>= readOptions specs subcommands words false) =
          readOptions specs subcommands words escaped' g' := by
    intro x
    cases x with
    | error e => exact Or.inl ⟨e, fun _ => rfl⟩
    | ok g => exact Or.inr ⟨false, g, fun _ => rfl⟩
  by_cases hescaped : escaped = true
  · exact Or.inl ⟨_, fun words => by rw [readOptions, if_pos hescaped]⟩
  by_cases hsub : g.awaits.isNone ∧ word ∈ subcommands
  · exact Or.inr (Or.inl fun words => by rw [readOptions, if_neg hescaped, if_pos hsub])
  simp only [readOptions, if_neg hescaped, if_neg hsub]
  cases WordForm.of word with
  | escape => exact Or.inr (Or.inr ⟨true, g, fun _ => rfl⟩)
  | long name v =>
    cases hfind : specs.find? (·.long == name) with
    | none =>
      simp only [hfind]
      exact Or.inl ⟨_, fun _ => rfl⟩
    | some spec =>
      simp only [hfind]
      exact (htry (g.meet spec v)).imp_right Or.inr
  | letters cs => exact (htry (g.meetLetters specs cs)).imp_right Or.inr
  | plain =>
    cases g.awaits with
    | none => exact Or.inl ⟨_, fun _ => rfl⟩
    | some id => exact Or.inr (Or.inr ⟨false, _, fun _ => rfl⟩)

/-- The reading stops at a subcommand just when the words up to it lead there. -/
theorem readOptions_eq_atSubcommand_iff :
    readOptions specs subcommands words escaped g = .ok (g', .atSubcommand word rest) ↔
      ∃ front, words = front ++ word :: rest ∧
        readOptions specs subcommands (front ++ [word]) escaped g =
          .ok (g', .atSubcommand word []) := by
  constructor
  · intro h
    induction words generalizing escaped g with
    | nil =>
      rw [readOptions] at h
      cases h
    | cons first words ih =>
      rcases readOptions_cons_cases specs subcommands first escaped g with
        ⟨e, herror⟩ | hsub | ⟨escaped', g₁, hnext⟩
      · rw [herror] at h
        cases h
      · rw [hsub] at h
        cases h
        exact ⟨[], rfl, hsub []⟩
      · rw [hnext] at h
        obtain ⟨front, rfl, hfront⟩ := ih h
        exact ⟨first :: front, rfl, (hnext _).trans hfront⟩
  · rintro ⟨front, rfl, h⟩
    induction front generalizing escaped g with
    | nil =>
      rcases readOptions_cons_cases specs subcommands word escaped g with
        ⟨e, herror⟩ | hsub | ⟨escaped', g₁, hnext⟩
      · rw [List.nil_append, herror] at h
        cases h
      · rw [List.nil_append, hsub] at h
        cases h
        exact hsub rest
      · rw [List.nil_append, hnext, readOptions] at h
        cases h
    | cons first front ih =>
      rw [List.cons_append] at h ⊢
      rcases readOptions_cons_cases specs subcommands first escaped g with
        ⟨e, herror⟩ | hsub | ⟨escaped', g₁, hnext⟩
      · rw [herror] at h
        cases h
      · rw [hsub] at h
        simp at h
      · rw [hnext] at h ⊢
        exact ih h

end


/-- The words in front are options of the program itself, and the word after them is the
subcommand. -/
def LeadsTo (front : List String) (word : String) : Prop :=
  ∃ g, readOptions globalOptions CommandLine.subcommands (front ++ [word]) false {} =
    .ok (g, .atSubcommand word [])

/-! ## The options of a subcommand -/

theorem unambiguous_clusterOptions : Unambiguous clusterOptions := by
  constructor <;> simp [clusterOptions]

/-- The options give each thing once, and name the cluster of the arguments by its uid or by asking
for it to be fetched. -/
structure NamesOneCluster (given : List (ClusterOption × String)) (args : ClusterArgs) :
    Prop where
  nodup : (given.map (·.1)).Nodup
  ns : (.ns, args.ns) ∈ given
  name : (.name, args.name) ∈ given
  uid : ∀ v, args.uid = some v ↔ (.uid, v) ∈ given
  apiVersion : ∀ v, args.apiVersion = some v ↔ (.apiVersion, v) ∈ given
  kind : ∀ v, args.kind = some v ↔ (.kind, v) ∈ given
  fetch : args.fetch = true ↔ .fetch ∈ given.map (·.1)
  /-- Not both of them, and not neither. -/
  oneWay : Xor (.fetch ∈ given.map (·.1)) (.uid ∈ given.map (·.1))
  untyped : args.fetch = true → args.apiVersion = none ∧ args.kind = none

/-- The cluster is what the options give, letter for letter, and has the configured version and
kind where they give none. -/
structure SpelledOut (conf : Configuration) (given : List (ClusterOption × String)) (c : Cluster) :
    Prop where
  ns : (.ns, c.ns) ∈ given
  name : (.name, c.name) ∈ given
  uid : (.uid, c.uid) ∈ given
  apiVersion : (.apiVersion, c.apiVersion) ∈ given ∨
    .apiVersion ∉ given.map (·.1) ∧ c.apiVersion = conf.clusterApiVersion
  kind : (.kind, c.kind) ∈ given ∨ .kind ∉ given.map (·.1) ∧ c.kind = conf.clusterKind
  lockName : c.lockName = c.uid ++ "-controlplane"

theorem Configuration.explicitCluster_of_fetch {conf : Configuration} {args : ClusterArgs}
    (h : args.fetch = true) : conf.explicitCluster args = none := by
  rw [explicitCluster, if_pos h]

namespace NamesOneCluster

variable {given given' : List (ClusterOption × String)} {args : ClusterArgs}

/-- The empty uid that stands in for a missing one is not used. -/
theorem explicitCluster (h : NamesOneCluster given args) (conf : Configuration)
    (hfetch : args.fetch = false) :
    ∃ c, conf.explicitCluster args = some c ∧ SpelledOut conf given c := by
  have hnot : ¬ args.fetch = true := by simp [hfetch]
  have huid : ClusterOption.uid ∈ given.map (·.1) :=
    h.oneWay.elim (fun hw => (hnot (h.fetch.2 hw.1)).elim) fun hw => hw.1
  obtain ⟨⟨_, uid⟩, hmem, rfl⟩ := List.mem_map.1 huid
  have hargs : args.uid = some uid := (h.uid uid).2 hmem
  -- a text that is given, or else the configured one
  have htext : ∀ {id : ClusterOption} {text : Option String} (other : String),
      (∀ v, text = some v ↔ (id, v) ∈ given) →
        (id, text.getD other) ∈ given ∨ id ∉ given.map (·.1) ∧ text.getD other = other := by
    intro id text other htext
    cases text with
    | some v => exact Or.inl ((htext v).1 rfl)
    | none =>
      refine Or.inr ⟨fun hid => ?_, rfl⟩
      obtain ⟨⟨_, v⟩, hmem, rfl⟩ := List.mem_map.1 hid
      cases (htext v).2 hmem
  refine ⟨_, by rw [Configuration.explicitCluster, if_neg hnot, hargs, Option.getD_some], ?_⟩
  exact {
    ns := h.ns
    name := h.name
    uid := hmem
    apiVersion := htext _ h.apiVersion
    kind := htext _ h.kind
    lockName := rfl }

theorem perm (h : NamesOneCluster given args) (hp : given.Perm given') :
    NamesOneCluster given' args := by
  have hkeys : ∀ id, id ∈ given'.map (·.1) ↔ id ∈ given.map (·.1) :=
    fun _ => (hp.map _).mem_iff.symm
  have hmem : ∀ e, e ∈ given' ↔ e ∈ given := fun _ => hp.mem_iff.symm
  exact {
    nodup := (hp.map _).nodup_iff.1 h.nodup
    ns := (hmem _).2 h.ns
    name := (hmem _).2 h.name
    uid := fun v => (h.uid v).trans (hmem _).symm
    apiVersion := fun v => (h.apiVersion v).trans (hmem _).symm
    kind := fun v => (h.kind v).trans (hmem _).symm
    fetch := h.fetch.trans (hkeys _).symm
    oneWay := by simpa only [hkeys] using h.oneWay
    untyped := h.untyped }

end NamesOneCluster

namespace ClusterArgs

variable {given : List (ClusterOption × String)} {args : ClusterArgs}

theorem read_eq_ok_iff {words : List String} :
    read words = .ok args ↔
      ∃ r, ReadsTo clusterOptions ⟨[], none⟩ words r ∧ ofGiven r = .ok args := by
  rw [read]
  constructor
  · intro h
    cases hread : readOptions clusterOptions [] words false {} with
    | error e =>
      rw [hread] at h
      cases h
    | ok gs =>
      obtain ⟨g, stop⟩ := gs
      rw [hread] at h
      cases hsettle : g.settle with
      | error e =>
        simp [hsettle, bind, Except.bind] at h
      | ok r =>
        simp only [hsettle, bind, Except.bind] at h
        exact ⟨r, ⟨g, stop, hread, hsettle⟩, h⟩
  · rintro ⟨r, ⟨g, stop, hread, hsettle⟩, h⟩
    rw [hread]
    simpa only [bind, Except.bind, hsettle] using h

/-- What is given is accepted just when it names one cluster. -/
theorem ofGiven_eq_ok_iff (hn : (given.map (·.1)).Nodup) :
    ofGiven ⟨given, none⟩ = .ok args ↔ NamesOneCluster given args := by
  have hvalue : ∀ id v, (⟨given, none⟩ : Given ClusterOption).value? id = some v ↔
      (id, v) ∈ given := fun _ _ => Given.value?_eq_some_iff hn none
  have hhas : ∀ id, (⟨given, none⟩ : Given ClusterOption).has id = true ↔
      id ∈ given.map (·.1) := fun _ => Given.has_iff
  have hnone : ∀ id, (⟨given, none⟩ : Given ClusterOption).value? id = none ↔
      id ∉ given.map (·.1) := by
    intro id
    rw [← hhas, Given.has, Option.not_isSome_iff_eq_none]
  unfold ofGiven
  constructor
  · intro h
    split at h
    · cases h
    rename_i hconflict
    simp only [hhas] at hconflict
    split at h
    · rename_i ns name hns hname
      split at h
      · rename_i hway
        simp only [hhas] at hway
        cases h
        refine ⟨hn, (hvalue _ _).1 hns, (hvalue _ _).1 hname, hvalue .uid, hvalue .apiVersion,
          hvalue .kind, hhas .fetch, ?_, fun hfetch => ?_⟩
        · by_cases hfetch : ClusterOption.fetch ∈ given.map (·.1)
          · exact Or.inl ⟨hfetch, fun huid => hconflict ⟨hfetch, Or.inl huid⟩⟩
          · exact Or.inr ⟨hway.resolve_right hfetch, hfetch⟩
        · have hfetch := (hhas .fetch).1 hfetch
          exact ⟨(hnone _).2 fun h => hconflict ⟨hfetch, Or.inr (Or.inl h)⟩,
            (hnone _).2 fun h => hconflict ⟨hfetch, Or.inr (Or.inr h)⟩⟩
      · cases h
    · cases h
  · intro h
    have heq : ∀ {id : ClusterOption} {value : Option String},
        (∀ v, value = some v ↔ (id, v) ∈ given) →
          (⟨given, none⟩ : Given ClusterOption).value? id = value :=
      fun hid => Option.ext fun v => (hvalue _ v).trans (hid v).symm
    have hfetch : (⟨given, none⟩ : Given ClusterOption).has .fetch = args.fetch :=
      Bool.eq_iff_iff.2 ((hhas _).trans h.fetch.symm)
    have hconflict : ¬ (args.fetch = true ∧
        (.uid ∈ given.map (·.1) ∨ .apiVersion ∈ given.map (·.1) ∨ .kind ∈ given.map (·.1))) := by
      rintro ⟨hf, huid | hapi | hkind⟩
      · exact h.oneWay.elim (fun hw => hw.2 huid) fun hw => hw.2 (h.fetch.1 hf)
      · exact (hnone _).1 ((heq h.apiVersion).trans (h.untyped hf).1) hapi
      · exact (hnone _).1 ((heq h.kind).trans (h.untyped hf).2) hkind
    have hway : .uid ∈ given.map (·.1) ∨ args.fetch = true :=
      h.oneWay.elim (fun hw => Or.inr (h.fetch.2 hw.1)) fun hw => Or.inl hw.1
    rw [hfetch, (hvalue _ _).2 h.ns, (hvalue _ _).2 h.name, heq h.uid, heq h.apiVersion,
      heq h.kind]
    simp only [hhas]
    rw [if_neg hconflict, if_pos hway]

/-- Words that are accepted are options that name one cluster. -/
theorem written_of_read {words : List String} (h : read words = .ok args) :
    ∃ (os : List (WrittenOption clusterOptions)) (tail : List String) (given : _),
      words = os.flatMap WrittenOption.words ++ tail ∧ (tail = [] ∨ tail = ["--"]) ∧
      List.Forall₂ (fun o e => o.Gives e.1 e.2) os given ∧ NamesOneCluster given args := by
  obtain ⟨r, hread, hr⟩ := read_eq_ok_iff.1 h
  obtain ⟨os, tail, rfl, htail⟩ := written_of_readsTo unambiguous_clusterOptions hread
  have ht : IsTail tail := htail.imp_right fun h => ⟨[], h⟩
  obtain ⟨given, hgives, hn, -, -, rfl⟩ := (readsTo_all unambiguous_clusterOptions os ht).1 hread
  exact ⟨os, tail, given, rfl, htail, hgives, (ofGiven_eq_ok_iff hn).1 hr⟩

/-- The order of the options does not matter. -/
theorem read_perm {os os' : List (WrittenOption clusterOptions)} (h : os.Perm os')
    {tail : List String} (ht : IsTail tail)
    (hread : read (os.flatMap WrittenOption.words ++ tail) = .ok args) :
    read (os'.flatMap WrittenOption.words ++ tail) = .ok args := by
  obtain ⟨r, hread, hr⟩ := read_eq_ok_iff.1 hread
  obtain ⟨given, hgives, hn, -, htail, rfl⟩ :=
    (readsTo_all unambiguous_clusterOptions os ht).1 hread
  obtain ⟨given', hgives', hperm⟩ := List.perm_comp_forall₂ h.symm hgives
  have hn' : (given'.map (·.1)).Nodup := (hperm.map _).nodup_iff.2 hn
  refine read_eq_ok_iff.2 ⟨⟨given', none⟩, ?_, ?_⟩
  · exact (readsTo_all unambiguous_clusterOptions os' ht).2
      ⟨given', hgives', hn', fun _ _ => List.not_mem_nil, htail, rfl⟩
  · have hnames := (ofGiven_eq_ok_iff hn).1 hr
    exact (ofGiven_eq_ok_iff hn').2 (hnames.perm hperm.symm)

end ClusterArgs

namespace CommandLine

variable {env : List (String × String)}

theorem find?_word_eq_some_iff {word : String} {verb : Verb} :
    Verb.all.find? (·.word == word) = some verb ↔ word = verb.word := by
  constructor
  · intro h
    have hword := List.find?_some h
    exact (beq_iff_eq.1 hword).symm
  · rintro rfl
    cases verb <;> rfl

/-- Once the words lead to the subcommand, the rest decides whether they are accepted. -/
theorem read_eq_ok_iff {argv : List String} {cli : CommandLine} :
    read env argv = .ok cli ↔
      ∃ g r rest verb args, readOptions globalOptions subcommands argv.tail false {} =
          .ok (g, .atSubcommand verb.word rest) ∧
        ClusterArgs.read rest = .ok args ∧ g.settle = .ok r ∧
        cli = { configFile :=
                  ((r.value? .config) <|> env.lookup configFileVariable).getD defaultConfigFile
                context := r.value? .context
                logLevel := r.value? .logLevel
                command := ⟨verb, args⟩ } := by
  rw [read, readWords]
  constructor
  · intro h
    cases hread : readOptions globalOptions subcommands argv.tail false {} with
    | error e =>
      rw [hread] at h
      cases h
    | ok gs =>
      obtain ⟨g, stop⟩ := gs
      simp only [hread, bind, Except.bind] at h
      cases stop with
      | atEnd =>
        cases hsettle : g.settle with
        | error e =>
          rw [hsettle] at h
          cases h
        | ok r =>
          simp only [hsettle] at h
          split at h <;> cases h
      | atSubcommand word rest =>
        cases hverb : Verb.all.find? (·.word == word) with
        | none =>
          simp only [hverb] at h
          cases h
        | some verb =>
          cases find?_word_eq_some_iff.1 hverb
          cases hargs : ClusterArgs.read rest with
          | error e =>
            simp only [hverb, hargs] at h
            cases h
          | ok args =>
            cases hsettle : g.settle with
            | error e =>
              simp only [hverb, hargs, hsettle] at h
              cases h
            | ok r =>
              simp only [hverb, hargs, hsettle] at h
              cases h
              exact ⟨g, r, rest, verb, args, rfl, hargs, hsettle, rfl⟩
  · rintro ⟨g, r, rest, verb, args, hread, hargs, hsettle, rfl⟩
    rw [hread]
    simp only [bind, Except.bind, find?_word_eq_some_iff.2 rfl, hargs, hsettle]
    rfl

theorem read_perm {program : String} {front : List String} {word : String} {tail : List String}
    {os os' : List (WrittenOption clusterOptions)} (hleads : LeadsTo front word)
    (ht : IsTail tail) (hp : os.Perm os') {cli : CommandLine}
    (h : read env (program :: (front ++ word :: (os.flatMap WrittenOption.words ++ tail))) =
      .ok cli) :
    read env (program :: (front ++ word :: (os'.flatMap WrittenOption.words ++ tail))) =
      .ok cli := by
  obtain ⟨g, hg⟩ := hleads
  -- the words before the options lead to the subcommand in both
  have hstops : ∀ rest, readOptions globalOptions subcommands (front ++ word :: rest) false {} =
      .ok (g, .atSubcommand word rest) :=
    fun rest => readOptions_eq_atSubcommand_iff.2 ⟨front, rfl, hg⟩
  obtain ⟨g', r, rest, verb, args, hread, hargs, hsettle, rfl⟩ := read_eq_ok_iff.1 h
  rw [List.tail_cons, hstops] at hread
  cases hread
  exact read_eq_ok_iff.2 ⟨g, r, _, verb, args, hstops _, ClusterArgs.read_perm hp ht hargs,
    hsettle, rfl⟩

/-- **A command line that is accepted names its cluster in one way.** After the words that lead to
the subcommand stand options; they give each thing once, and just one of them is the uid or asks for
the cluster to be fetched. A cluster that is not to be fetched is spelled out by them, whatever the
configuration. The order of the options changes nothing. -/
theorem one_cluster (env : List (String × String)) :
    (∀ argv cli, read env argv = .ok cli →
      ∃ front tail given, ∃ os : List (WrittenOption clusterOptions),
        argv.tail = front ++ cli.command.verb.word :: (os.flatMap WrittenOption.words ++ tail) ∧
        LeadsTo front cli.command.verb.word ∧ (tail = [] ∨ tail = ["--"]) ∧
        List.Forall₂ (fun o e => o.Gives e.1 e.2) os given ∧
        NamesOneCluster given cli.command.args ∧
        ∀ conf : Configuration,
          (cli.command.args.fetch = true → conf.explicitCluster cli.command.args = none) ∧
          (cli.command.args.fetch = false →
            ∃ c, conf.explicitCluster cli.command.args = some c ∧ SpelledOut conf given c)) ∧
      ∀ program front word tail, ∀ os os' : List (WrittenOption clusterOptions),
        LeadsTo front word → IsTail tail → os.Perm os' → ∀ cli,
          (read env (program :: (front ++ word :: (os.flatMap WrittenOption.words ++ tail))) =
              .ok cli ↔
            read env (program :: (front ++ word :: (os'.flatMap WrittenOption.words ++ tail))) =
              .ok cli) := by
  refine ⟨fun argv cli h => ?_, fun program front word tail os os' hleads ht hp cli => ?_⟩
  · obtain ⟨g, r, rest, verb, args, hread, hargs, -, rfl⟩ := read_eq_ok_iff.1 h
    obtain ⟨front, hargv, hfront⟩ := readOptions_eq_atSubcommand_iff.1 hread
    obtain ⟨os, tail, given, rfl, htail, hgives, hnames⟩ := ClusterArgs.written_of_read hargs
    exact ⟨front, tail, given, os, hargv, ⟨g, hfront⟩, htail, hgives, hnames,
      fun conf => ⟨Configuration.explicitCluster_of_fetch, hnames.explicitCluster conf⟩⟩
  · exact ⟨read_perm hleads ht hp, read_perm hleads ht hp.symm⟩

/-- Options for one cluster: a letter with its value, a name with its value behind an equals sign,
and a name whose value is the next word. -/
def namingWords : List (WrittenOption clusterOptions) :=
  [{ word := "-nns1", names := by decide, waits := by simp },
    { word := "--name=cl1", names := by decide, waits := by simp },
    { word := "--uid", value := some "abc-123", names := by decide
      waits := by
        rintro v ⟨⟩
        exact ⟨by decide, { id := .uid, long := "uid" }, by simp [clusterOptions], rfl, .long⟩ }]

theorem one_cluster_acquire :
    ∃ cli, read [] ["cpinit", "acquire", "-nns1", "--name=cl1", "--uid", "abc-123"] = .ok cli ∧
      cli.command = ⟨.acquire, ⟨"ns1", "cl1", some "abc-123", none, none, false⟩⟩ ∧
      (∃ given, NamesOneCluster given cli.command.args) ∧
      read [] ["cpinit", "acquire", "--uid", "abc-123", "--name=cl1", "-nns1"] = .ok cli := by
  have hread : read [] ["cpinit", "acquire", "-nns1", "--name=cl1", "--uid", "abc-123"] =
      .ok ⟨"conf/cpinit.yml", none, none,
        ⟨.acquire, ⟨"ns1", "cl1", some "abc-123", none, none, false⟩⟩⟩ := rfl
  have hleads : LeadsTo [] "acquire" := ⟨{}, rfl⟩
  obtain ⟨hnames, horder⟩ := one_cluster []
  obtain ⟨-, -, given, -, -, -, -, -, hgiven, -⟩ := hnames _ _ hread
  have hreversed := (horder "cpinit" [] "acquire" [] namingWords namingWords.reverse hleads
    (Or.inl rfl) namingWords.reverse_perm.symm _).1 hread
  exact ⟨_, hread, rfl, ⟨given, hgiven⟩, hreversed⟩

end CommandLine
end ClusterLock
