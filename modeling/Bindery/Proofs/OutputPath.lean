import Bindery.Proofs.Corpus
import Bindery.Proofs.ForeignName
import Bindery.Run

/-!
# Where modules are written

The path of an output file tells its module: what is put in place of the placeholder can be read
off the path, unless it makes a relative path absolute, which takes a slash. So the files of a run
do not get in each other's way, whatever the place of files refuses, and no other file is touched.
-/

namespace Bindery

namespace Text

variable {old new new' t : Text}

/-! ## What is put in place of something -/

/-- Replacing something joins the pieces around it with something else. -/
theorem rewriteFrom_literal (old new : Text) (last : Option Char) (skip : Nat) (t : Text) :
    rewriteFrom (Rule.literal old new) last skip t = joined new (piecesFrom old skip t) := by
  induction t generalizing last skip with
  | nil => rfl
  | cons c t ih =>
    cases skip with
    | succ n => exact ih (some c) n
    | zero =>
      rw [rewriteFrom, piecesFrom, Rule.literal]
      split
      · next change hchange =>
        split at hchange
        · next hstarts =>
          cases hchange
          rw [if_pos hstarts, joined_cons new [] (piecesFrom_ne_nil _ t), List.nil_append, ih]
        · cases hchange
      · next hnone =>
        split at hnone
        · cases hnone
        · next hstarts =>
          rw [if_neg hstarts, joined_consPiece c (piecesFrom_ne_nil 0 t), ih]

theorem replace_eq_joined (old new t : Text) :
    replace old new t = joined new (piecesFrom old 0 t) :=
  rewriteFrom_literal old new none 0 t

theorem length_consPiece (c : Char) {bs : List Text} (h : bs ≠ []) :
    (consPiece c bs).length = bs.length := by
  obtain ⟨b, bs, rfl⟩ := List.exists_cons_of_ne_nil h
  rfl

/-- There is something on either side of what occurs. -/
theorem one_lt_length_piecesFrom (h : old <:+: t) (hold : old ≠ []) :
    1 < (piecesFrom old 0 t).length := by
  induction t with
  | nil => exact absurd (List.infix_nil.mp h) hold
  | cons c t ih =>
    rw [piecesFrom]
    split
    · rw [List.length_cons]
      exact Nat.lt_add_of_pos_left (List.length_pos_iff.mpr (piecesFrom_ne_nil _ t))
    · next hstarts =>
      rw [length_consPiece c (piecesFrom_ne_nil 0 t)]
      refine ih ((List.infix_cons_iff.mp h).resolve_left fun hprefix => hstarts ?_)
      obtain ⟨rest, hrest⟩ := hprefix
      exact startsWith_iff.mpr ⟨rest, hrest.symm⟩

/-- A joined text is as long as its parts and what stands between any two of them. -/
theorem length_joined (s : Text) (bs : List Text) :
    (joined s bs).length = bs.flatten.length + (bs.length - 1) * s.length := by
  induction bs with
  | nil => simp
  | cons b bs ih =>
    by_cases hbs : bs = []
    · subst hbs
      simp
    · obtain ⟨n, hn⟩ := Nat.exists_eq_succ_of_ne_zero (List.length_pos_iff.mpr hbs).ne'
      rw [hn, Nat.succ_sub_one] at ih
      rw [joined_cons s b hbs, List.length_append, List.length_append, ih, List.flatten_cons,
        List.length_append, List.length_cons, hn, Nat.add_sub_cancel, Nat.succ_mul]
      omega

/-- What takes the place of something makes the text the longer, the longer it is. -/
theorem length_replace_lt (h : old <:+: t) (hold : old ≠ []) (hlength : new.length < new'.length) :
    (replace old new t).length < (replace old new' t).length := by
  have hpieces := one_lt_length_piecesFrom h hold
  rw [replace_eq_joined, replace_eq_joined, length_joined, length_joined]
  exact Nat.add_lt_add_left (Nat.mul_lt_mul_of_pos_left hlength (Nat.sub_pos_of_lt hpieces)) _

/-- What takes the place of something that occurs can be read off the result. -/
theorem replace_right_injective (h : old <:+: t) (hold : old ≠ [])
    (heq : replace old new t = replace old new' t) : new = new' := by
  have hlength : new.length = new'.length := by
    rcases Nat.lt_trichotomy new.length new'.length with hlt | hlength | hlt
    · exact absurd (congrArg List.length heq) (Nat.ne_of_lt (length_replace_lt h hold hlt))
    · exact hlength
    · exact absurd (congrArg List.length heq) (Nat.ne_of_gt (length_replace_lt h hold hlt))
  have hpieces := one_lt_length_piecesFrom h hold
  rw [replace_eq_joined, replace_eq_joined] at heq
  match hsplit : piecesFrom old 0 t with
  | [] => simp [hsplit] at hpieces
  | [_] => simp [hsplit] at hpieces
  | first :: second :: rest =>
    have hne : second :: rest ≠ [] := List.cons_ne_nil second rest
    rw [hsplit, joined_cons new first hne, joined_cons new' first hne, List.append_assoc,
      List.append_assoc] at heq
    exact (List.append_inj (List.append_cancel_left heq) hlength).1

end Text

/-! ## Paths -/

namespace Path

/-- A path seen from a directory has the path at its end. -/
theorem suffix_join (base path : Text) : path <:+ join base path := by
  unfold join
  split
  · exact List.suffix_refl path
  · split
    · exact List.suffix_append base path
    · exact List.suffix_append _ path

/-- Two paths that are both absolute, or both relative, are told apart from everywhere. -/
theorem eq_of_join_eq {base path path' : Text} (habsolute : isAbsolute path = isAbsolute path')
    (h : join base path = join base path') : path = path' := by
  unfold join at h
  rw [habsolute] at h
  split at h
  · exact h
  · split at h <;> exact List.append_cancel_left h

theorem isAbsolute_iff {path : Text} : isAbsolute path = true ↔ path.head? = some '/' := by
  rw [isAbsolute, Text.startsWith_iff, List.head?_eq_some_iff]
  rfl

end Path

namespace Settings

variable {key key' pattern : Text}

theorem placeholder_ne_nil : placeholder ≠ [] := by with_unfolding_all decide

/-- A path without the placeholder at its front begins like the pattern. -/
theorem head?_replace {c : Char} (hpattern : pattern.head? = some c)
    (hstarts : Text.startsWith placeholder pattern = false) (key : Text) :
    (Text.replace placeholder key pattern).head? = some c := by
  obtain ⟨rest, rfl⟩ := List.head?_eq_some_iff.mp hpattern
  rw [Text.replace_cons hstarts, List.head?_cons]

/-- A path with the placeholder at its front begins like the module. -/
theorem prefix_replace (hstarts : Text.startsWith placeholder pattern = true) (key : Text) :
    key <+: Text.replace placeholder key pattern := by
  obtain ⟨c, rest, hsplit⟩ : ∃ c rest, pattern = c :: rest := by
    obtain ⟨rest, rfl⟩ := Text.startsWith_iff.mp hstarts
    exact List.exists_cons_of_ne_nil (List.append_ne_nil_of_left_ne_nil placeholder_ne_nil rest)
  subst hsplit
  have hrule : Text.Rule.literal placeholder key none c rest =
      some ⟨key, placeholder.length - 1⟩ :=
    Text.Rule.literal_eq_some_iff.mpr ⟨hstarts, rfl⟩
  rw [Text.replace, Text.rewrite, Text.rewriteFrom, hrule]
  exact List.prefix_append _ _

/-- Whether a path is absolute is up to the pattern, unless the module has no name. -/
theorem isAbsolute_replace (hpattern : Text.occurs placeholder pattern = true) (hkey : key ≠ [])
    (hslash : '/' ∉ key) :
    Path.isAbsolute (Text.replace placeholder key pattern) = Path.isAbsolute pattern := by
  rw [Bool.eq_iff_iff, Path.isAbsolute_iff, Path.isAbsolute_iff]
  obtain ⟨c, rest, rfl⟩ : ∃ c rest, pattern = c :: rest := by
    refine List.exists_cons_of_ne_nil ?_
    rintro rfl
    exact placeholder_ne_nil (List.infix_nil.mp (Text.occurs_iff.mp hpattern))
  by_cases hstarts : Text.startsWith placeholder (c :: rest) = true
  · obtain ⟨d, name, rfl⟩ := List.exists_cons_of_ne_nil hkey
    obtain ⟨tail, htail⟩ := prefix_replace hstarts (d :: name)
    obtain ⟨behind, hbehind⟩ := Text.startsWith_iff.mp hstarts
    have hbrace : c = '\x7b' := by
      rw [placeholder, Text.ofString_eq] at hbehind
      exact (List.cons.inj hbehind).1
    rw [← htail, hbrace]
    refine iff_of_false (fun hhead => hslash ?_) (by simp)
    rw [List.cons_append, List.head?_cons, Option.some.injEq] at hhead
    exact hhead ▸ List.mem_cons_self
  · rw [head?_replace rfl (Bool.eq_false_iff.mpr hstarts) key]
    rfl

/-- An absolute pattern gives absolute paths. -/
theorem isAbsolute_replace_of_isAbsolute (h : Path.isAbsolute pattern = true) (key : Text) :
    Path.isAbsolute (Text.replace placeholder key pattern) = true := by
  have hhead := Path.isAbsolute_iff.mp h
  refine Path.isAbsolute_iff.mpr (head?_replace hhead ?_ key)
  rw [Bool.eq_false_iff]
  intro hstarts
  obtain ⟨behind, rfl⟩ := Text.startsWith_iff.mp hstarts
  rw [placeholder, Text.ofString_eq] at hhead
  cases hhead

section Injective

variable {s : Settings} (hs : Text.occurs placeholder s.pattern = true)
include hs

/-- A module without a name has a path of its own. -/
theorem outputPath_nil_ne (hkey : key ≠ []) (hslash : '/' ∉ key) :
    s.outputPath [] ≠ s.outputPath key := by
  intro h
  have hinfix := Text.occurs_iff.mp hs
  have hsame : Path.isAbsolute (Text.replace placeholder [] s.pattern) =
      Path.isAbsolute (Text.replace placeholder key s.pattern) → False := fun habsolute =>
    hkey (Text.replace_right_injective hinfix placeholder_ne_nil
      (Path.eq_of_join_eq habsolute h)).symm
  by_cases hpattern : Path.isAbsolute s.pattern = true
  · exact hsame ((isAbsolute_replace_of_isAbsolute hpattern []).trans
      (isAbsolute_replace_of_isAbsolute hpattern key).symm)
  · have hrelative : Path.isAbsolute (Text.replace placeholder key s.pattern) = false := by
      rw [isAbsolute_replace hs hkey hslash]
      exact Bool.eq_false_iff.mpr hpattern
    by_cases hroot : Path.isAbsolute (Text.replace placeholder [] s.pattern) = true
    · -- An absolute path is as it is, and too short for the other one to be at its end.
      have hlength := (Path.suffix_join s.directory
        (Text.replace placeholder key s.pattern)).length_le
      rw [outputPath, outputPath, Path.join_of_isAbsolute hroot] at h
      rw [← h] at hlength
      exact absurd hlength (Nat.not_le_of_lt (Text.length_replace_lt hinfix placeholder_ne_nil
        (List.length_pos_iff.mpr hkey)))
    · exact hsame ((Bool.eq_false_iff.mpr hroot).trans hrelative.symm)

/-- **Modules whose names have no slash are written to different paths**, wherever the placeholder
stands, and however often. -/
theorem outputPath_injective (hslash : '/' ∉ key) (hslash' : '/' ∉ key')
    (h : s.outputPath key = s.outputPath key') : key = key' := by
  by_cases hkey : key = []
  · subst hkey
    by_contra hne
    exact outputPath_nil_ne hs (Ne.symm hne) hslash' h
  · by_cases hkey' : key' = []
    · subst hkey'
      exact absurd h.symm (outputPath_nil_ne hs hkey hslash)
    · have habsolute := (isAbsolute_replace hs hkey hslash).trans
        (isAbsolute_replace hs hkey' hslash').symm
      exact Text.replace_right_injective (Text.occurs_iff.mp hs) placeholder_ne_nil
        (Path.eq_of_join_eq habsolute h)

end Injective

/-- Settings without a flaw have the placeholder in their pattern. -/
theorem occurs_placeholder_of_flaw? {s : Settings} (h : s.flaw? = none) :
    Text.occurs placeholder s.pattern = true := by
  unfold flaw? at h
  split at h
  · cases h
  · next hoccurs => simpa using hoccurs

end Settings

/-! ## Files by their paths -/

/-- Files as a map from paths to texts. -/
abbrev FileMap := Text → Option Text

/-- The files with a text under a path, in place of what was there. -/
def FileMap.put (files : FileMap) (path text : Text) : FileMap := fun other =>
  if other = path then some text else files other

@[simp] theorem FileMap.put_self (files : FileMap) (path text : Text) :
    files.put path text path = some text := if_pos rfl

theorem FileMap.put_of_ne (files : FileMap) {path other : Text} (h : other ≠ path) (text : Text) :
    files.put path text other = files other := if_neg h

/-- What a place of files refuses to do, by the files that are there. -/
structure Refusals where
  /-- Why a directory is not made. -/
  directory : FileMap → Text → Option FileFault := fun _ _ => none
  /-- Why a text is not written. -/
  text : FileMap → Text → Text → Option FileFault := fun _ _ _ => none

/-- Actions on files that are told apart by their paths. -/
def OnFileMap (_ : Refusals) (α : Type) : Type := StateM FileMap α

namespace OnFileMap

variable {refusals : Refusals}

instance : Monad (OnFileMap refusals) := inferInstanceAs (Monad (StateM FileMap))

instance : LawfulMonad (OnFileMap refusals) := inferInstanceAs (LawfulMonad (StateM FileMap))

/-- What is refused changes nothing. -/
instance : MonadFiles (OnFileMap refusals) where
  readText path := fun files =>
    ((files path).elim (.error .missing) .ok, files)
  isThere path := fun files => ((files path).isSome, files)
  makeDirectories path := fun files =>
    ((refusals.directory files path).elim (.ok ()) .error, files)
  writeText path text := fun files =>
    match refusals.text files path text with
    | some fault => (.error fault, files)
    | none => (.ok (), files.put path text)

/-- Carry out an action that can stop with a fault. -/
def run (refusals : Refusals) (action : ExceptT RunFault (OnFileMap refusals) α)
    (files : FileMap) : Except RunFault α × FileMap := ExceptT.run action files

end OnFileMap

namespace Run

open OnFileMap

variable {s : Settings} {refusals : Refusals} {files files' : FileMap}

/-- The files with the texts of some modules under their paths. -/
def putModules (s : Settings) (files : FileMap) (modules : List (Text × Text)) : FileMap :=
  modules.foldl (fun files module => files.put (s.outputPath module.1) module.2) files

/-- An action behind another one is carried out where that has got to. -/
theorem run_bind (action : ExceptT RunFault (OnFileMap refusals) α)
    (next : α → ExceptT RunFault (OnFileMap refusals) β) : run refusals (action >>= next) files =
      match run refusals action files with
      | (.ok x, files) => run refusals (next x) files
      | (.error fault, files) => (.error fault, files) := by
  have hbind : ∀ {α β : Type} (x : OnFileMap refusals α) (f : α → OnFileMap refusals β),
      (x >>= f) files = f (x files).1 (x files).2 := fun _ _ => rfl
  unfold run
  rw [ExceptT.run_bind, hbind]
  rcases ExceptT.run action files with ⟨_ | _, _⟩ <;> rfl

/-- An action that cannot stop is carried out where it stands. -/
theorem run_lift (action : OnFileMap refusals α) :
    run refusals (liftM action) files = (.ok (action files).1, (action files).2) := rfl

/-- A module is put under its path, unless that is refused. -/
theorem run_writeModule (module : Text × Text) :
    run refusals (writeModule s module) files =
      match refusals.text files (s.outputPath module.1) module.2 with
      | some fault => (.error (.unwritable (s.outputPath module.1) fault), files)
      | none => (.ok (s.outputPath module.1), files.put (s.outputPath module.1) module.2) := by
  unfold writeModule
  dsimp only
  rw [run_bind, run_lift]
  simp only [MonadFiles.writeText]
  cases refusals.text files (s.outputPath module.1) module.2 <;> rfl

/-- Modules that are written are put under their paths, one after the other. -/
theorem run_mapM_writeModule {modules : List (Text × Text)} {written : List Text}
    (h : run refusals (modules.mapM (writeModule s)) files = (.ok written, files')) :
    written = modules.map (fun module => s.outputPath module.1) ∧
      files' = putModules s files modules := by
  induction modules generalizing files written with
  | nil =>
    cases h
    exact ⟨rfl, rfl⟩
  | cons module modules ih =>
    rw [List.mapM_cons, run_bind, run_writeModule] at h
    cases htext : refusals.text files (s.outputPath module.1) module.2 with
    | some fault =>
      rw [htext] at h
      cases h
    | none =>
      rw [htext] at h
      dsimp only at h
      rw [run_bind] at h
      split at h
      · next rest files'' hrest =>
        cases h
        obtain ⟨rfl, rfl⟩ := ih hrest
        exact ⟨rfl, rfl⟩
      · cases h

/-- Where no text is refused, all modules are written. -/
theorem exists_run_mapM_writeModule (h : ∀ files path text, refusals.text files path text = none)
    (modules : List (Text × Text)) : ∃ written files',
      run refusals (modules.mapM (writeModule s)) files = (.ok written, files') := by
  induction modules generalizing files with
  | nil => exact ⟨[], files, rfl⟩
  | cons module modules ih =>
    obtain ⟨written, files', hrest⟩ := @ih (files.put (s.outputPath module.1) module.2)
    refine ⟨s.outputPath module.1 :: written, files', ?_⟩
    rw [List.mapM_cons, run_bind, run_writeModule, h]
    dsimp only
    rw [run_bind, hrest]
    rfl

/-- What is under a path after modules are put is the text of a module with that path, or what was
there before. -/
theorem putModules_of_not_mem {modules : List (Text × Text)} {path : Text}
    (h : path ∉ modules.map fun module => s.outputPath module.1) :
    putModules s files modules path = files path := by
  induction modules generalizing files with
  | nil => rfl
  | cons module modules ih =>
    rw [List.map_cons, List.mem_cons, not_or] at h
    exact (ih h.2).trans (files.put_of_ne h.1 module.2)

/-- Modules with different paths keep their texts. -/
theorem putModules_of_mem {modules : List (Text × Text)}
    (hpaths : (modules.map fun module => s.outputPath module.1).Nodup) {module : Text × Text}
    (h : module ∈ modules) :
    putModules s files modules (s.outputPath module.1) = some module.2 := by
  induction modules generalizing files with
  | nil => cases h
  | cons first modules ih =>
    rw [List.map_cons, List.nodup_cons] at hpaths
    rcases List.mem_cons.mp h with rfl | h
    · exact (putModules_of_not_mem hpaths.1).trans (files.put_self _ _)
    · exact ih hpaths.2 h

/-- The directory is made first, and nothing is written without it. -/
theorem run_writeOutput (output : Output) : run refusals (writeOutput s output) files =
    match refusals.directory files s.directory with
    | some fault => (.error (.noDirectory s.directory fault), files)
    | none => run refusals (output.modules.mapM (writeModule s)) files := by
  unfold writeOutput
  rw [run_bind, run_lift]
  simp only [MonadFiles.makeDirectories]
  cases refusals.directory files s.directory <;> rfl

end Run

/-- **No module overwrites another.** For settings without a flaw and modules whose names have no
slash, the modules have different paths. So when they are all written, their paths are listed in the
order of the modules, every one of these files holds the text of its module, and all other files are
as before, whatever was there and whatever else would have been refused; and they are all written
where nothing is refused. -/
theorem writeOutput_separates_modules {s : Settings} (hs : s.flaw? = none) (corpus : Corpus)
    (options : GenerationOptions) (ls : List Located)
    (hslash : ∀ key ∈ (generate corpus options ls).output.keys, '/' ∉ key) :
    let output := (generate corpus options ls).output
    (output.keys.map s.outputPath).Nodup ∧
    (∀ (refusals : Refusals) (files files' : FileMap) (written : List Text),
      OnFileMap.run refusals (Run.writeOutput s output) files = (.ok written, files') →
        written = output.keys.map s.outputPath ∧
        (∀ module ∈ output.modules, files' (s.outputPath module.1) = some module.2) ∧
        ∀ path ∉ written, files' path = files path) ∧
    ∀ files, ∃ written files',
      OnFileMap.run {} (Run.writeOutput s output) files = (.ok written, files') := by
  intro output
  have hkeys : output.keys.Nodup := by
    change (generate corpus options ls).output.keys.Nodup
    rw [output_generate]
    exact Output.nodup_keys_foldl_write isFlush_of_mem_logOf
  have hpaths : (output.keys.map s.outputPath).Nodup :=
    hkeys.map_on fun key hkey key' hkey' => Settings.outputPath_injective
      (Settings.occurs_placeholder_of_flaw? hs) (hslash key hkey) (hslash key' hkey')
  have hmap : output.keys.map s.outputPath =
      output.modules.map fun module => s.outputPath module.1 := by
    rw [Output.keys, List.map_map]
    rfl
  refine ⟨hpaths, ?_, ?_⟩
  · intro refusals files files' written hrun
    rw [Run.run_writeOutput] at hrun
    split at hrun
    · cases hrun
    · obtain ⟨rfl, rfl⟩ := Run.run_mapM_writeModule hrun
      rw [hmap] at hpaths ⊢
      exact ⟨rfl, fun _ hmodule => Run.putModules_of_mem hpaths hmodule,
        fun _ hpath => Run.putModules_of_not_mem hpath⟩
  · intro files
    rw [Run.run_writeOutput]
    exact Run.exists_run_mapM_writeModule (fun _ _ _ => rfl) output.modules

/-- Settings that put every module into a directory of its own. -/
def nestedSettings : Settings :=
  { directory := "out", pattern := "\x7bmodule\x7d/\x7bmodule\x7d.nim" }

/-- Two modules are written over two old files, and a third old file stays. -/
theorem writeOutput_separates_modules_reopeningHeader :
    nestedSettings.flaw? = none ∧
    (∀ key ∈ (generate {} {} reopeningHeader).output.keys, '/' ∉ key) ∧
    ∃ files', OnFileMap.run {} (Run.writeOutput nestedSettings (generate {} {} reopeningHeader).output)
        (fun _ => some "old") =
          (.ok [Text.ofString "out/system/system.nim", Text.ofString "out/graphics/graphics.nim"],
            files') ∧
      files' "out/graphics/graphics.nim" =
        some (Text.ofString "\n#--- lib/Graphics ---#\n\ntype Sprite* = ptr object\n") ∧
      files' "out/main/main.nim" = some (Text.ofString "old") := by
  have hflaw : nestedSettings.flaw? = none := by with_unfolding_all decide
  have hslash : ∀ key ∈ (generate {} {} reopeningHeader).output.keys, '/' ∉ key := by
    with_unfolding_all decide
  obtain ⟨_, hrun, hsome⟩ := writeOutput_separates_modules hflaw {} {} reopeningHeader hslash
  obtain ⟨written, files', hwritten⟩ := hsome fun _ => some "old"
  obtain ⟨hpaths, htexts, hother⟩ := hrun {} _ files' written hwritten
  have hlist : written =
      [Text.ofString "out/system/system.nim", Text.ofString "out/graphics/graphics.nim"] :=
    hpaths.trans (by with_unfolding_all decide)
  subst hlist
  refine ⟨hflaw, hslash, files', hwritten, ?_, hother _ (by with_unfolding_all decide)⟩
  have hpath : nestedSettings.outputPath "graphics" = "out/graphics/graphics.nim" := by
    with_unfolding_all decide
  rw [← hpath]
  exact htexts ("graphics", "\n#--- lib/Graphics ---#\n\ntype Sprite* = ptr object\n")
    (by with_unfolding_all decide)

end Bindery
