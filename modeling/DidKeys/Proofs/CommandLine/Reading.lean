import DidKeys.CommandLine.Run
import DidKeys.Proofs.Except

/-! # Arguments that ask for a command

The names of a command, followed by options with their values attached, are read as what they say
(`parse_assigned`): each option must be one of the command, be given once and take its value, and
the environment must not name a backend that does not exist.  A command that takes a text without a
name is read from its names and the text (`parse_plain`).  What the values hold is up to the
command; they may begin with dashes or hold equals signs. -/

namespace DidKeys.CommandLine

variable {env : Environment} {place : Place} {given : Given}

/-! ### Environments -/

/-- Whether the backend that an environment names exists, if it names one. -/
def Environment.isUsable (env : Environment) : Bool := env.backend.all Form.backend.accepts

theorem Given.finish_eq (hpending : given.pending = none) (hbackend : given.has "backend" = false) :
    given.finish env = if env.isUsable then .ok given else .error .usage := by
  have hsettle : given.settle = .ok given := by
    rw [settle, hpending]
  rw [finish, hsettle, ok_bind, Environment.isUsable, hbackend]
  cases env.backend with
  | none =>
      rfl
  | some name =>
      rfl

/-! ### Options with their values -/

/-- The argument that gives an option its value. -/
def assigned (entry : Named × String) : String := "--" ++ entry.1.name ++ "=" ++ entry.2

/-- No name of an option has an equals sign. -/
theorem equals_not_mem_of_option? {name : String} {option : Named}
    (h : place.option? name = some option) : '=' ∉ option.name.toList := by
  have hmem := List.mem_of_find?_eq_some h
  have hall : ∀ option ∈ Place.globalOptions ++ place.ownOptions, '=' ∉ option.name.toList := by
    cases place <;> decide
  exact hall option hmem

/-- The first equals sign ends the name. -/
theorem Argument.ofChars_assigned {entry : Named × String} (h : '=' ∉ entry.1.name.toList) :
    ofChars (assigned entry).toList = .long entry.1.name (some entry.2) := by
  have hchars : (assigned entry).toList =
      '-' :: '-' :: (entry.1.name.toList ++ '=' :: entry.2.toList) := by
    simp [assigned]
  have hcut := Text.splitFirst?_append_cons h entry.2.toList
  rw [hchars]
  cases hrest : entry.1.name.toList ++ '=' :: entry.2.toList with
  | nil =>
      simp at hrest
  | cons c cs =>
      rw [hrest] at hcut
      simp only [ofChars, hcut, String.ofList_toList]

/-- With a value attached, not even `help` is anything but an option. -/
theorem readDashed_long_some (name value : String) :
    readDashed place given (.long name (some value)) =
      beginOption place given name (some value) := by
  unfold readDashed
  split <;> simp_all

/-- An option that the place has is added with its value. -/
theorem readHere_assigned {entry : Named × String}
    (hoption : place.option? entry.1.name = some entry.1) (hpending : given.pending = none)
    (htexts : given.textsOnly = false) :
    readHere place given (assigned entry) = given.add entry.1 entry.2 := by
  have hkind := Argument.ofChars_assigned (equals_not_mem_of_option? hoption)
  have hsettle : given.settle = .ok given := by
    rw [Given.settle, hpending]
  rw [readHere, htexts, if_neg Bool.false_ne_true, hpending, hkind]
  simp only [readDashed_long_some, beginOption, hoption, hsettle, ok_bind]

/-- The names of some options with their values. -/
def namesOf (entries : List (Named × String)) : List String := entries.map fun entry => entry.1.name

theorem Given.has_eq_false_iff {name : String} :
    given.has name = false ↔ name ∉ namesOf given.values := by
  rw [has, value?, Option.isSome_map, Option.isSome_eq_false_iff, Option.isNone_iff_eq_none,
    List.find?_eq_none, namesOf, List.mem_map]
  simp only [beq_iff_eq, not_exists, not_and]

theorem Given.add_eq {entry : Named × String} (hnew : entry.1.name ∉ namesOf given.values) :
    given.add entry.1 entry.2 =
      if entry.1.form.accepts entry.2 then
        .ok { given with values := given.values ++ [entry] }
      else .error .usage := by
  rw [add, insert, has_eq_false_iff.mpr hnew]
  rfl

/-- The options of a place are found there, have different names, and are none of every place. -/
theorem Place.ownOptions_spec (place : Place) :
    (∀ option ∈ place.ownOptions,
      place.option? option.name = some option ∧ option.name ≠ "backend") ∧
    (place.ownOptions.map Named.name).Nodup := by
  cases place <;> decide

/-- Options are read from left to right; what is read so far and what is left never share a name. -/
theorem walk_map_assigned {entries : List (Named × String)} (hleaf : place.children = [])
    (hoptions : ∀ entry ∈ entries, place.option? entry.1.name = some entry.1)
    (hnames : (namesOf (given.values ++ entries)).Nodup) (hpending : given.pending = none)
    (htexts : given.textsOnly = false) :
    walk env place given (entries.map assigned) =
      if entries.all fun entry => entry.1.form.accepts entry.2 then do
        return (place, ← { given with values := given.values ++ entries }.finish env)
      else .error .usage := by
  induction entries generalizing given with
  | nil =>
      rw [List.append_nil]
      rfl
  | cons entry entries ih =>
      have hchild : place.child? (assigned entry) = none := by
        rw [Place.child?, hleaf]
        rfl
      have hnew : entry.1.name ∉ namesOf given.values := by
        rw [namesOf, List.map_append, List.nodup_append] at hnames
        intro hmem
        exact hnames.2.2 _ hmem _ (List.mem_cons_self ..) rfl
      have hread := readHere_assigned (hoptions entry (List.mem_cons_self ..)) hpending htexts
      rw [Given.add_eq hnew] at hread
      have hhere : walk env place given (assigned entry :: entries.map assigned) =
          readHere place given (assigned entry) >>= fun given =>
            walk env place given (entries.map assigned) := by
        rw [walk, hchild, ite_self, hleaf]
        simp only [List.isEmpty_nil, Bool.not_true, Bool.and_false, Bool.false_and,
          Bool.false_eq_true, if_false]
      rw [List.map_cons, hhere, hread]
      by_cases haccepts : entry.1.form.accepts entry.2 = true
      · rw [if_pos haccepts, ok_bind, ih]
        · rw [List.append_assoc, List.singleton_append, List.all_cons, haccepts, Bool.true_and]
        · intro later hlater
          exact hoptions later (List.mem_cons_of_mem _ hlater)
        · rw [List.append_assoc, List.singleton_append]
          exact hnames
        · exact hpending
        · exact htexts
      · rw [if_neg haccepts, List.all_cons, eq_false_of_ne_true haccepts]
        rfl

/-- A place that was given some options and nothing else. -/
def Given.ofOptions (entries : List (Named × String)) : Given := ⟨entries, none, none, false⟩

/-- A place that was given a text and nothing else. -/
def Given.ofText (text : String) : Given := ⟨[], some text, none, false⟩

theorem walk_assigned {entries : List (Named × String)} (hleaf : place.children = [])
    (hown : (entries.map Prod.fst).Sublist place.ownOptions) :
    walk env place .nothing (entries.map assigned) =
      if (entries.all fun entry => entry.1.form.accepts entry.2) && env.isUsable then
        .ok (place, .ofOptions entries)
      else .error .usage := by
  obtain ⟨hoptions, hdistinct⟩ := place.ownOptions_spec
  have hfound : ∀ entry ∈ entries,
      place.option? entry.1.name = some entry.1 ∧ entry.1.name ≠ "backend" :=
    fun entry hentry => hoptions _ (hown.mem (List.mem_map_of_mem hentry))
  have hnames : (namesOf entries).Nodup := by
    have hnodup := hdistinct.sublist (hown.map Named.name)
    rw [List.map_map] at hnodup
    exact hnodup
  have hbackend : "backend" ∉ namesOf entries := by
    intro hmem
    obtain ⟨entry, hentry, hname⟩ := List.mem_map.mp hmem
    exact (hfound entry hentry).2 hname
  have hread : walk env place .nothing (entries.map assigned) =
      if entries.all fun entry => entry.1.form.accepts entry.2 then do
        return (place, ← Given.finish (.ofOptions entries) env)
      else .error .usage :=
    walk_map_assigned hleaf (fun entry hentry => (hfound entry hentry).1) hnames rfl rfl
  have hfinish : Given.finish (.ofOptions entries) env =
      if env.isUsable then .ok (.ofOptions entries) else .error .usage :=
    Given.finish_eq rfl (Given.has_eq_false_iff.mpr hbackend)
  by_cases hall : (entries.all fun entry => entry.1.form.accepts entry.2) = true
  · rw [if_pos hall] at hread
    rw [hread, hall, Bool.true_and]
    show Given.finish (.ofOptions entries) env >>= _ = _
    rw [hfinish]
    cases env.isUsable <;> rfl
  · rw [if_neg hall] at hread
    rw [hread, eq_false_of_ne_true hall]
    rfl

theorem walk_plain {text : String} (hleaf : place.children = []) (htakes : place.takesText = true)
    (hplain : Argument.ofChars text.toList = .plain) :
    walk env place .nothing [text] =
      if env.isUsable then .ok (place, .ofText text) else .error .usage := by
  have hchild : place.child? text = none := by
    rw [Place.child?, hleaf]
    rfl
  have hhere : readHere place .nothing text = .ok (.ofText text) := by
    have htext : Given.addText .nothing place text = .ok (.ofText text) := by
      rw [Given.addText, Given.settle]
      simp only [Given.nothing, ok_bind, htakes]
      rfl
    simp only [readHere, Given.nothing, hplain]
    exact htext
  rw [walk, hchild, ite_self, hleaf]
  simp only [List.isEmpty_nil, Bool.not_true, Bool.and_false, Bool.false_and, Bool.false_eq_true,
    if_false, hhere, ok_bind, walk]
  rw [Given.finish_eq rfl rfl]
  cases env.isUsable <;> rfl

/-! ### Commands -/

section names
variable {names args : List String} {child : Place} {good : Bool} {given : Given}

/-- The names on the way down to a place are read over. -/
theorem walk_append (hplace : helpPlace? place names = some child)
    (hwalk : walk env child .nothing args =
      if good && env.isUsable then .ok (child, given) else .error .usage) :
    walk env place .nothing (names ++ args) =
      if good && env.isUsable then .ok (child, given) else .error .usage := by
  induction names generalizing place with
  | nil =>
      cases hplace
      exact hwalk
  | cons name names ih =>
      obtain ⟨next, hnext, hrest⟩ := Option.bind_eq_some_iff.mp hplace
      have hdescend : mayDescend .nothing = true := rfl
      rw [List.cons_append, walk, hdescend, if_pos rfl, hnext]
      simp only [ih hrest]
      -- every place above looks at the environment again
      rw [Given.finish_eq rfl rfl]
      cases good <;> cases env.isUsable <;> rfl

theorem parse_append (hplace : helpPlace? .program names = some place)
    (hwalk : walk env place .nothing args =
      if good && env.isUsable then .ok (place, given) else .error .usage) :
    parse env (names ++ args) =
      if good && env.isUsable then commandAt env given place else .error .usage := by
  rw [parse, walk_append hplace hwalk]
  cases good && env.isUsable <;> rfl

/-- Options with values lead to the command of the place, from just these options; otherwise they
are not used as they should be. -/
theorem parse_assigned (names : List String) (place : Place) (entries : List (Named × String))
    (hplace : helpPlace? .program names = some place) (hleaf : place.children = [])
    (hown : (entries.map Prod.fst).Sublist place.ownOptions) :
    parse env (names ++ entries.map assigned) =
      if (entries.all fun entry => entry.1.form.accepts entry.2) && env.isUsable then
        commandAt env (.ofOptions entries) place
      else .error .usage :=
  parse_append hplace (walk_assigned hleaf hown)

/-- A text that does not begin with a dash leads to the command of the place, from just this
text. -/
theorem parse_plain (names : List String) (place : Place) {text : String}
    (hplace : helpPlace? .program names = some place)
    (hleaf : place.children = []) (htakes : place.takesText = true)
    (hplain : Argument.ofChars text.toList = .plain) :
    parse env (names ++ [text]) =
      if env.isUsable then commandAt env (.ofText text) place else .error .usage := by
  have hwalk : walk env place .nothing [text] =
      if true && env.isUsable then .ok (place, .ofText text) else .error .usage :=
    walk_plain hleaf htakes hplain
  exact parse_append hplace hwalk

end names

/-! ### Indexes -/

/-- A numeral has no sign in front. -/
theorem index?_text (number : Nat) :
    index? (Decimal.text number) = if number < UInt32.size then some number else none := by
  have hread := Decimal.value?_digits number
  have hdigit : ∀ c ∈ Decimal.digits number, Decimal.isDigit c = true :=
    fun c hc => Decimal.isDigit_of_mem_digits hc
  rw [index?, Decimal.text, String.toList_ofList]
  cases hdigits : Decimal.digits number with
  | nil =>
      exact absurd hdigits (Decimal.digits_ne_nil number)
  | cons c cs =>
      rw [hdigits] at hread hdigit
      have hfirst := hdigit c (List.mem_cons_self ..)
      have hplus : c ≠ '+' := by
        rintro rfl
        exact absurd hfirst (by decide)
      have hminus : c ≠ '-' := by
        rintro rfl
        exact absurd hfirst (by decide)
      have hunsigned : unsigned? (c :: cs) = some number := by
        unfold unsigned?
        split
        · next heq => exact absurd (List.cons.inj heq).1 hplus
        · exact hread
      split
      · next heq => exact absurd (List.cons.inj heq).1 hminus
      · rw [hunsigned, Option.filter_some]
        simp only [decide_eq_true_eq]

/-! ### Arguments of the commands -/

/-- The arguments that ask for a new identifier. -/
def createDidArguments (source : SeedSource) (didIndex : Nat) : List String :=
  ["did", "create", "--mnemonic=" ++ source.mnemonic, "--passphrase=" ++ source.passphrase,
    "--did-index=" ++ Decimal.text didIndex]

/-- The arguments that ask what an identifier is. -/
def inspectDidArguments (did : String) : List String := ["did", "inspect", did]

/-- The arguments that ask for the key at a path. -/
def deriveArguments (source : SeedSource) (path : String) : List String :=
  ["derive", "--mnemonic=" ++ source.mnemonic, "--passphrase=" ++ source.passphrase,
    "--path=" ++ path]

/-- The arguments that ask for a signature by the key at a path. -/
def signArguments (source : SeedSource) (path message : String) : List String :=
  ["sign", "--mnemonic=" ++ source.mnemonic, "--passphrase=" ++ source.passphrase,
    "--path=" ++ path, "--message=" ++ message]

/-- The arguments that ask for the verdict on a signature. -/
def verifyArguments (publicKey message signature : String) : List String :=
  ["verify", "--public-key=" ++ publicKey, "--message=" ++ message, "--signature=" ++ signature]

section commands
variable {source : SeedSource}

theorem parse_createDidArguments (didIndex : Nat) :
    parse env (createDidArguments source didIndex) =
      if didIndex < UInt32.size ∧ env.isUsable = true then .ok (.createDid source didIndex)
      else .error .usage := by
  have hread : parse env (createDidArguments source didIndex) =
      if ((index? (Decimal.text didIndex)).isSome && true) && env.isUsable then
        .ok (.createDid source ((index? (Decimal.text didIndex)).getD 0))
      else .error .usage :=
    parse_assigned ["did", "create"] .createDid [(⟨"mnemonic", .text⟩, source.mnemonic),
      (⟨"passphrase", .text⟩, source.passphrase),
      (⟨"did-index", .index⟩, Decimal.text didIndex)] rfl rfl (List.Sublist.refl _)
  rw [hread, index?_text, Bool.and_true]
  by_cases hindex : didIndex < UInt32.size
  · rw [if_pos hindex]
    simp only [hindex, Option.isSome_some, Bool.true_and, true_and, Option.getD_some]
  · rw [if_neg hindex]
    exact (if_neg fun h => hindex h.1).symm

theorem parse_inspectDidArguments {did : String} (hplain : Argument.ofChars did.toList = .plain) :
    parse env (inspectDidArguments did) =
      if env.isUsable then .ok (.inspectDid did) else .error .usage :=
  parse_plain ["did", "inspect"] .inspectDid rfl rfl rfl hplain

theorem parse_deriveArguments (path : String) :
    parse env (deriveArguments source path) =
      if env.isUsable then .ok (.derive source path false) else .error .usage :=
  parse_assigned ["derive"] .derive [(⟨"mnemonic", .text⟩, source.mnemonic),
    (⟨"passphrase", .text⟩, source.passphrase), (⟨"path", .text⟩, path)] rfl rfl
    (List.sublist_append_left _ ([⟨"show-private", .flag⟩] : List Named))

theorem parse_signArguments (path message : String) :
    parse env (signArguments source path message) =
      if env.isUsable then .ok (.sign source path message) else .error .usage :=
  parse_assigned ["sign"] .sign [(⟨"mnemonic", .text⟩, source.mnemonic),
    (⟨"passphrase", .text⟩, source.passphrase), (⟨"path", .text⟩, path),
    (⟨"message", .text⟩, message)] rfl rfl (List.Sublist.refl _)

theorem parse_verifyArguments (publicKey message signature : String) :
    parse env (verifyArguments publicKey message signature) =
      if env.isUsable then .ok (.verify publicKey message signature) else .error .usage :=
  parse_assigned ["verify"] .verify [(⟨"public-key", .text⟩, publicKey),
    (⟨"message", .text⟩, message), (⟨"signature", .text⟩, signature)] rfl rfl (List.Sublist.refl _)

end commands

end DidKeys.CommandLine
