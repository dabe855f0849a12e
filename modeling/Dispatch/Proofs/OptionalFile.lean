import Dispatch.Proofs.Relevance

namespace Dispatch.Settings

/-!
# The optional file

A path selects the file that it leads to, or else the one file that it leads to with
an extension.  Whatever is wrong with a file short of its contents makes no
difference: then settings are loaded as if there were no file.  Once the contents
are text of a known format, they must be a document, whatever the variables say.
-/

/-! ## Paths -/

/-- A part of a path that is a name, or leads up. -/
structure IsProper (part : String) : Prop where
  notEmpty : part ≠ ""
  notHere : part ≠ "."
  undivided : '/' ∉ part.toList

theorem not_mem_of_mem_splitOn
    {separator : Char}
    {characters piece : List Char}
    (member : piece ∈ characters.splitOn separator) :
    separator ∉ piece := by
  induction characters generalizing piece with
  | nil =>
      rw [List.splitOn_nil, List.mem_singleton] at member
      exact member ▸ List.not_mem_nil
  | cons character rest inductionHypothesis =>
      rw [List.splitOn_cons_eq_if_modifyHead] at member
      split at member
      · rcases List.mem_cons.mp member with rfl | later
        · exact List.not_mem_nil
        · exact inductionHypothesis later
      · rename_i different
        cases pieces : rest.splitOn separator with
        | nil =>
            exact absurd pieces (List.splitOn_ne_nil _ _)
        | cons first others =>
            rw [pieces, List.modifyHead_cons, List.mem_cons] at member
            rcases member with rfl | later
            · rw [List.mem_cons, not_or]
              exact ⟨fun same => different (beq_iff_eq.mpr same.symm),
                inductionHypothesis (by rw [pieces]; exact List.mem_cons_self)⟩
            · exact inductionHypothesis
                (by rw [pieces]; exact List.mem_cons_of_mem _ later)

theorem isProper_of_mem_properParts
    {path part : String}
    (member : part ∈ properParts path) :
    IsProper part := by
  obtain ⟨isPart, isProper⟩ := List.mem_filter.mp member
  obtain ⟨piece, isPiece, rfl⟩ := List.mem_map.mp isPart
  rw [Bool.and_eq_true, bne_iff_ne, bne_iff_ne] at isProper
  refine ⟨isProper.1, isProper.2, ?_⟩
  rw [String.toList_ofList]
  exact not_mem_of_mem_splitOn isPiece

/-- Proper parts are those of the path that they make up. -/
theorem properParts_intercalate
    {parts : List String}
    (notEmpty : parts ≠ [])
    (proper : ∀ part ∈ parts, IsProper part) :
    properParts (String.intercalate "/" parts) = parts := by
  have divided : pathParts (String.intercalate "/" parts) = parts := by
    have separate : ∀ piece ∈ parts.map String.toList, '/' ∉ piece := by
      intro piece member
      obtain ⟨part, isPart, rfl⟩ := List.mem_map.mp member
      exact (proper part isPart).undivided
    have whole :
        (String.intercalate "/" parts).toList =
            ['/'].intercalate (parts.map String.toList) :=
      String.toList_intercalate
    rw [pathParts, whole,
      List.splitOn_intercalate '/' separate (by simpa using notEmpty), List.map_map]
    simp [Function.comp_def]
  rw [properParts, divided, List.filter_eq_self]
  intro part member
  simp [(proper part member).notEmpty, (proper part member).notHere]

/-- A name with an extension has this extension. -/
theorem extensionOf?_append
    {name extension : String}
    (notEmpty : name ≠ "")
    (undotted : '.' ∉ extension.toList) :
    extensionOf? (name ++ "." ++ extension) = some extension := by
  have reversed :
      (name ++ "." ++ extension).toList.reverse =
        extension.toList.reverse ++ '.' :: name.toList.reverse := by
    simp [String.toList_append]
  have plain :
      ∀ character ∈ extension.toList.reverse, (character != '.') = true := by
    intro character member
    rw [bne_iff_ne]
    rintro rfl
    exact undotted (List.mem_reverse.mp member)
  have stem : name.toList.reverse.isEmpty = false := by
    simpa using notEmpty
  simp only [extensionOf?, reversed, List.dropWhile_append_of_pos plain,
    List.takeWhile_append_of_pos plain]
  simp [stem]

/-- The format of a file, by the extension of its path. -/
def formatOf?
    (path : String) : Option Format :=
  ((lastPart? path).bind extensionOf?).bind Format.ofExtension?

/-- A slash in front of a path adds no proper part. -/
theorem properParts_rooted
    (path : String) :
    properParts ("/" ++ path) = properParts path := by
  have split : pathParts ("/" ++ path) = "" :: pathParts path := by
    have characters : ("/" ++ path).toList = '/' :: path.toList := by
      rw [String.toList_append]
      rfl
    rw [pathParts, characters, List.splitOn_cons_eq_if_modifyHead,
      if_pos (beq_self_eq_true _)]
    rfl
  rw [properParts, split]
  rfl

/--
A name with the extension of a format is a proper part, and leads nowhere else.
-/
theorem isProper_append
    {name : String}
    (proper : IsProper name)
    (format : Format) :
    IsProper (name ++ "." ++ format.extension) ∧
        name ++ "." ++ format.extension ≠ ".." := by
  have long : 3 < (name ++ "." ++ format.extension).length := by
    have extension : 2 < format.extension.length := by
      cases format <;> decide
    have dot : ".".length = 1 := rfl
    simp only [String.length_append]
    omega
  have shorter {other : String} (short : other.length ≤ 3) :
      name ++ "." ++ format.extension ≠ other := by
    rintro rfl
    omega
  refine ⟨⟨shorter (by decide), shorter (by decide), ?_⟩, shorter (by decide)⟩
  have undivided : '/' ∉ format.extension.toList := by
    cases format <;> decide
  simp [String.toList_append, proper.undivided, undivided]

/--
A path with the extension of a format appended is that of a file of this format.
-/
theorem formatOf?_of_withExtension?
    {tree : FileTree}
    {path extended : String}
    {format : Format}
    (made : tree.withExtension? path format.extension = some extended) :
    formatOf? extended = some format := by
  obtain ⟨name, isLast, shape⟩ := Option.map_eq_some_iff.mp made
  obtain ⟨ends, -⟩ := Option.filter_eq_some_iff.mp isLast
  obtain ⟨stem, parts⟩ := List.getLast?_eq_some_iff.mp ends
  rw [parts, List.dropLast_concat] at shape
  have proper : ∀ part ∈ stem ++ [name], IsProper part := fun part member =>
    isProper_of_mem_properParts (parts ▸ member)
  have nameProper : IsProper name := proper name (by simp)
  obtain ⟨extendedProper, notUp⟩ := isProper_append nameProper format
  have allProper :
      ∀ part ∈ stem ++ [name ++ "." ++ format.extension], IsProper part := by
    intro part member
    rcases List.mem_append.mp member with inStem | isLast
    · exact proper part (List.mem_append_left _ inStem)
    · exact List.mem_singleton.mp isLast ▸ extendedProper
  have read : properParts extended = stem ++ [name ++ "." ++ format.extension] := by
    rw [← shape]
    split
    · rw [properParts_rooted]
      exact properParts_intercalate (by simp) allProper
    · rw [String.empty_append]
      exact properParts_intercalate (by simp) allProper
  have undotted : '.' ∉ format.extension.toList := by
    cases format <;> decide
  have known : Format.ofExtension? format.extension = some format := by
    cases format <;> decide
  have last : lastPart? extended = some (name ++ "." ++ format.extension) := by
    simp [lastPart?, read, notUp]
  rw [formatOf?, last, Option.bind_some,
    extensionOf?_append nameProper.notEmpty undotted, Option.bind_some, known]

/-! ## The selected file -/

/--
The files that a path may select: the one it leads to, or else one with an
extension.
-/
inductive Selects
    (files : FileTree)
    (path : String) :
    (place : String) → (content : ByteArray) → Prop
  | itself
      {content : ByteArray}
      (isFile : files.read? path = some content) :
      Selects files path path content
  | extended
      {format : Format}
      {extended : String}
      {content : ByteArray}
      (noFile : files.read? path = none)
      (made : files.withExtension? path format.extension = some extended)
      (isFile : files.read? extended = some content) :
      Selects files path extended content

/-- A path may select at most one file. -/
def Unambiguous
    (files : FileTree)
    (path : String) : Prop :=
  ∀ ⦃place content other otherContent⦄,
    Selects files path place content →
    Selects files path other otherContent →
    place = other

/-- What is selected with the extension of a format. -/
def withFormat?
    (files : FileTree)
    (path : String)
    (format : Format) : Option Selected := do
  let extended ← files.withExtension? path format.extension
  let content ← files.read? extended
  return ⟨files.shownPath extended, format, content⟩

theorem withFormat?_eq_some_iff
    {files : FileTree}
    {path : String}
    {format : Format}
    {selected : Selected} :
    withFormat? files path format = some selected ↔
      ∃ extended content,
        files.withExtension? path format.extension = some extended ∧
          files.read? extended = some content ∧
            selected = ⟨files.shownPath extended, format, content⟩ := by
  constructor
  · intro isSelected
    obtain ⟨extended, made, onward⟩ := Option.bind_eq_some_iff.mp isSelected
    obtain ⟨content, isFile, same⟩ := Option.bind_eq_some_iff.mp onward
    cases same
    exact ⟨extended, content, made, isFile, rfl⟩
  · rintro ⟨extended, content, made, isFile, rfl⟩
    simp [withFormat?, made, isFile]

section

variable
  {files : FileTree}
  {path place : String}
  {content : ByteArray}

/-- Where a path leads to no file, the formats are tried in their order. -/
theorem select?_of_noFile
    (noFile : files.read? path = none) :
    select? files path = Format.all.findSome? (withFormat? files path) := by
  simp only [select?, noFile]
  rfl

/-- A path that leads to a file may select no other. -/
theorem unambiguous_of_file
    (isFile : files.read? path = some content) :
    Unambiguous files path := by
  have only {place : String} {other : ByteArray}
    (selects : Selects files path place other) :
      path = place := by
    cases selects with
    | itself => rfl
    | extended noFile => cases noFile.symm.trans isFile
  intro place _ other _ selects alsoSelects
  exact (only selects).symm.trans (only alsoSelects)

/-- The only file that a path may select is selected, if its format is known. -/
theorem Selects.select?_eq
    (selects : Selects files path place content)
    (single : Unambiguous files path) :
    select? files path =
      (formatOf? place).map fun format =>
          ⟨files.shownPath place, format, content⟩ := by
  cases selects with
  | itself isFile =>
      simp only [select?, isFile, formatOf?, Option.map_bind]
      rfl
  | @extended format _ _ noFile made isFile =>
      have known := formatOf?_of_withExtension? made
      have found :
          withFormat? files path format =
              some ⟨files.shownPath place, format, content⟩ :=
        withFormat?_eq_some_iff.mpr ⟨place, content, made, isFile, rfl⟩
      have only {other : Format} (different : other ≠ format) :
          withFormat? files path other = none := by
        rw [Option.eq_none_iff_forall_ne_some]
        intro selected isSelected
        obtain ⟨extended, otherContent, otherMade, otherFile, -⟩ :=
          withFormat?_eq_some_iff.mp isSelected
        obtain rfl : place = extended :=
          single (.extended noFile made isFile)
            (.extended noFile otherMade otherFile)
        have otherKnown := formatOf?_of_withExtension? otherMade
        exact different (Option.some.inj (otherKnown.symm.trans known))
      rw [select?_of_noFile noFile, known]
      cases format <;> simp [Format.all, found, only]

/-- Where there is no file to select, none is. -/
theorem select?_eq_none
    (nothing : ∀ place content, ¬Selects files path place content) :
    select? files path = none := by
  cases isFile : files.read? path with
  | some content =>
      exact absurd (.itself isFile) (nothing path content)
  | none =>
      rw [select?_of_noFile isFile, List.findSome?_eq_none_iff]
      intro format _
      rw [Option.eq_none_iff_forall_ne_some]
      intro selected isSelected
      obtain ⟨extended, content, made, isExtended, -⟩ :=
        withFormat?_eq_some_iff.mp isSelected
      exact nothing extended content (.extended isFile made isExtended)

/-! ## Loading -/

/-- The file that an error is about, as messages show it. -/
def LoadError.file? : LoadError → Option String
  | wrongType _ => none
  | malformed shown => some shown
  | notATable shown _ => some shown

variable
  {given : Option Variables}
  {process : Variables}

/-- A file that sets nothing is none. -/
theorem load_of_ofPath
    (setsNothing : ofPath files (some path) = .ok []) :
    load files (some path) given process = load files none given process := by
  simp only [load, loadFrom, setsNothing]
  rfl

/-- An error in a file comes before all else. -/
theorem load_of_ofPath_eq_error
    {error : LoadError}
    (refused : ofPath files (some path) = .error error) :
    load files (some path) given process = .error error := by
  simp only [load, loadFrom, refused]
  rfl

/-- An error about a file is met in reading it. -/
theorem ofPath_of_load
    {error : LoadError}
    (failed : load files (some path) given process = .error error)
    {shown : String}
    (about : error.file? = some shown) :
    ofPath files (some path) = .error error := by
  cases read : ofPath files (some path) with
  | error other =>
      rw [load_of_ofPath_eq_error read] at failed
      cases failed
      rfl
  | ok file =>
      simp only [load, loadFrom, read] at failed
      cases converted : ofTree (layered file (ofVariables (given.getD process))) with
      | ok settings =>
          simp [bind, Except.bind, ofLayers, converted, Except.mapError] at failed
      | error mismatch =>
          simp [bind, Except.bind, ofLayers, converted, Except.mapError] at failed
          rw [← failed] at about
          cases about

/-- Where there is no file to select, none sets anything. -/
theorem ofPath_of_nothing
    (nothing : ∀ place content, ¬Selects files path place content) :
    ofPath files (some path) = .ok [] := by
  simp only [ofPath, Option.bind_some, select?_eq_none nothing]

/-- A file whose format is not known sets nothing. -/
theorem Selects.ofPath_of_unknown
    (selects : Selects files path place content)
    (single : Unambiguous files path)
    (unknown : formatOf? place = none) :
    ofPath files (some path) = .ok [] := by
  simp only [ofPath, Option.bind_some, selects.select?_eq single, unknown,
    Option.map_none]

/--
The contents of the only file that a path may select are read in the format of its
path.
-/
theorem Selects.ofPath_eq
    (selects : Selects files path place content)
    (single : Unambiguous files path)
    {format : Format}
    (known : formatOf? place = some format) :
    ofPath files (some path) =
        ofSelected ⟨files.shownPath place, format, content⟩ := by
  simp only [ofPath, Option.bind_some, selects.select?_eq single, known,
    Option.map_some]

/-- A document that is no table is refused under the name of its file. -/
theorem exists_ofDocument_eq_error
    {shown : String}
    {value : Value}
    (noTable : ∀ members, value ≠ .object members) :
    ∃ found, ofDocument shown (some value) = .error (.notATable shown found) := by
  cases value with
  | object members =>
      exact absurd rfl (noTable members)
  | integer number =>
      simp only [ofDocument]
      split <;> exact ⟨_, rfl⟩
  | _ =>
      exact ⟨_, rfl⟩

/-- What is refused of a document is refused under the name of its file. -/
theorem file?_of_ofDocument
    {shown : String}
    {document : Option Value}
    {error : LoadError}
    (refused : ofDocument shown document = .error error) :
    error.file? = some shown := by
  unfold ofDocument at refused
  split at refused
  case h_2 =>
    cases refused
  case h_5 =>
    split at refused <;> cases refused <;> rfl
  all_goals
    cases refused
    rfl

/--
The contents of a file that are no document, or none of named values, are refused.
-/
theorem ofSelected_eq_error_iff
    {shown text : String}
    {format : Format}
    (isText : String.fromUTF8? content = some text) :
    (∃ error, ofSelected ⟨shown, format, content⟩ = .error error) ↔
      ∀ members, format.parse text ≠ some (.object members) := by
  simp only [ofSelected, isText]
  cases parsed : format.parse text with
  | none =>
      exact iff_of_true ⟨_, rfl⟩ (by simp)
  | some value =>
      by_cases isTable : ∃ members, value = .object members
      · obtain ⟨members, rfl⟩ := isTable
        simp [ofDocument]
      · have noTable : ∀ members, value ≠ .object members := not_exists.mp isTable
        obtain ⟨found, refused⟩ := exists_ofDocument_eq_error noTable
        exact iff_of_true ⟨_, refused⟩ (by simpa using noTable)

end

/-- Only a file that is selected, and is no table, is at fault. -/
theorem selected_of_file?
    {files : FileTree}
    {path shown : String}
    (single : Unambiguous files path)
    {given : Option Variables}
    {process : Variables}
    {error : LoadError}
    (failed : load files (some path) given process = .error error)
    (about : error.file? = some shown) :
    ∃ place content format text,
      Selects files path place content ∧
        shown = files.shownPath place ∧
        String.fromUTF8? content = some text ∧
        formatOf? place = some format ∧
        ∀ members, format.parse text ≠ some (.object members) := by
  have refused := ofPath_of_load failed about
  by_cases nothing : ∀ place content, ¬Selects files path place content
  · cases (ofPath_of_nothing nothing).symm.trans refused
  · obtain ⟨place, someContent⟩ := not_forall.mp nothing
    obtain ⟨content, isSelected⟩ := not_forall.mp someContent
    have selects := not_not.mp isSelected
    cases known : formatOf? place with
    | none =>
        cases (selects.ofPath_of_unknown single known).symm.trans refused
    | some format =>
        rw [selects.ofPath_eq single known] at refused
        cases isText : String.fromUTF8? content with
        | none =>
            simp only [ofSelected, isText] at refused
            cases refused
        | some text =>
            have noTable := (ofSelected_eq_error_iff isText).mp ⟨error, refused⟩
            simp only [ofSelected, isText] at refused
            have same := file?_of_ofDocument refused
            rw [about] at same
            exact ⟨place, content, format, text, selects, Option.some.inj same,
              isText, known, noTable⟩

/--
The optional file.  If a path may select at most one file, then loading goes as if
there were no path where there is no such file, where it is no text, and where its
format is not known.  A path that stands for another with an extension is as good as
the latter.  And a file that is text of a known format makes loading fail if it is
no document, or none of named values, whatever the variables are; no other file
makes loading fail.
-/
theorem optional_file_must_parse
    {files : FileTree}
    {path : String}
    (single : Unambiguous files path)
    (given : Option Variables)
    (process : Variables) :
    ((∀ place content, ¬Selects files path place content) →
      load files (some path) given process = load files none given process) ∧
    (∀ place content,
      Selects files path place content →
      String.fromUTF8? content = none ∨ formatOf? place = none →
      load files (some path) given process = load files none given process) ∧
    (∀ (format : Format) extended content,
      files.read? path = none →
      files.withExtension? path format.extension = some extended →
      files.read? extended = some content →
      load files (some path) given process =
        load files (some extended) given process) ∧
    (∀ place content format text,
      Selects files path place content →
      String.fromUTF8? content = some text →
      formatOf? place = some format →
      (format.parse text = none →
        (load files (some path) given process).mapError DispatchError.configuration =
          .error (.configuration (.malformed (files.shownPath place)))) ∧
      ∀ value,
        format.parse text = some value →
        (∀ members, value ≠ .object members) →
        ∃ found,
          (load files (some path) given process).mapError
            DispatchError.configuration =
            .error (.configuration (.notATable (files.shownPath place) found))) ∧
    ∀ error shown,
      load files (some path) given process = .error error →
      error.file? = some shown →
      ∃ place content format text,
        Selects files path place content ∧
          shown = files.shownPath place ∧
          String.fromUTF8? content = some text ∧
          formatOf? place = some format ∧
          ∀ members, format.parse text ≠ some (.object members) := by
  refine ⟨?_, ?_, ?_, ?_, ?_⟩
  · intro nothing
    exact load_of_ofPath (ofPath_of_nothing nothing)
  · intro place content selects unusable
    refine load_of_ofPath ?_
    cases known : formatOf? place with
    | none =>
        exact selects.ofPath_of_unknown single known
    | some format =>
        have noText : String.fromUTF8? content = none :=
          unusable.resolve_right (by rw [known]; exact Option.some_ne_none _)
        rw [selects.ofPath_eq single known]
        simp only [ofSelected, noText]
  · intro format extended content noFile made isFile
    have selects : Selects files path extended content :=
      .extended noFile made isFile
    have itself : Selects files extended extended content := .itself isFile
    have same : select? files path = select? files extended :=
      (selects.select?_eq single).trans
        (itself.select?_eq (unambiguous_of_file isFile)).symm
    simp only [load, loadFrom, ofPath, Option.bind_some, same]
  · intro place content format text selects isText known
    have read := selects.ofPath_eq single known
    simp only [ofSelected, isText] at read
    refine ⟨?_, ?_⟩
    · intro unparsed
      rw [unparsed] at read
      rw [load_of_ofPath_eq_error read]
      rfl
    · intro value parsed noTable
      obtain ⟨found, refused⟩ := exists_ofDocument_eq_error noTable
      rw [parsed, refused] at read
      exact ⟨found, by rw [load_of_ofPath_eq_error read]; rfl⟩
  · intro error shown failed about
    exact selected_of_file? single failed about

/-- A text that breaks off. -/
def brokenText : String :=
  "strict = ["

/--
A tree with this text as a file of a known format, away from the working directory.
-/
def brokenFiles : FileTree :=
  ⟨["srv"], [("/etc/app.toml", brokenText.toUTF8)]⟩

/-- Variables that set everything. -/
def fullVariables : Variables :=
  [("SCHEME_REGISTRY_STRICT", "on"), ("SCHEME_REGISTRY_LOG_LEVEL", "warn"),
    ("SCHEME_REGISTRY_LOG_JSON", "off")]

/-- The path without the extension stands for that of the file. -/
theorem selects_broken :
    brokenFiles.read? "/etc/./app" = none ∧
      brokenFiles.withExtension? "/etc/./app" Format.toml.extension =
        some "/etc/app.toml" ∧
      brokenFiles.read? "/etc/app.toml" = some brokenText.toUTF8 := by
  decide +kernel

/-- No other file may be selected. -/
theorem unambiguous_broken :
    Unambiguous brokenFiles "/etc/./app" := by
  obtain ⟨noFile, made, isFile⟩ := selects_broken
  have aside :
      ∀ format ∈ Format.all,
        format ≠ .toml →
        (brokenFiles.withExtension? "/etc/./app" format.extension).bind
          brokenFiles.read? =
          none := by
    decide +kernel
  have only {place : String} {content : ByteArray}
      (selects : Selects brokenFiles "/etc/./app" place content) :
      place = "/etc/app.toml" := by
    cases selects with
    | itself isOther => cases noFile.symm.trans isOther
    | @extended format _ _ _ otherMade isOther =>
        by_cases isToml : format = .toml
        · subst isToml
          exact Option.some.inj (otherMade.symm.trans made)
        · have nothing := aside format (by cases format <;> decide) isToml
          rw [otherMade, Option.bind_some, isOther] at nothing
          cases nothing
  intro place _ other _ selects alsoSelects
  exact (only selects).trans (only alsoSelects).symm

/--
The broken file is met under both paths, although the variables set everything.
-/
theorem broken_must_parse :
    Unambiguous brokenFiles "/etc/./app" ∧
      load brokenFiles (some "/etc/./app") (some fullVariables) [] =
        load brokenFiles (some "/etc/app.toml") (some fullVariables) [] ∧
      (load brokenFiles (some "/etc/./app") (some fullVariables) []).mapError
          DispatchError.configuration =
        .error (.configuration (.malformed "../etc/app.toml")) := by
  obtain ⟨noFile, made, isFile⟩ := selects_broken
  obtain ⟨-, -, extended, unreadable, -⟩ :=
    optional_file_must_parse unambiguous_broken (some fullVariables) []
  have isText : String.fromUTF8? brokenText.toUTF8 = some brokenText := by
    decide +kernel
  have known : formatOf? "/etc/app.toml" = some .toml := by
    decide +kernel
  have unparsed : Format.toml.parse brokenText = none := by
    decide +kernel
  have shown : brokenFiles.shownPath "/etc/app.toml" = "../etc/app.toml" := by
    decide +kernel
  have refused :=
    (unreadable _ _ _ _ (.extended noFile made isFile) isText known).1 unparsed
  rw [shown] at refused
  exact ⟨unambiguous_broken, extended _ _ _ noFile made isFile, refused⟩

end Dispatch.Settings
