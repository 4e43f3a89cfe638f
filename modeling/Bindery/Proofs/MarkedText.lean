import Bindery.Proofs.ExampleText
import Bindery.Proofs.TypeReference

/-!
# Marked texts

A block of documentation is made of plain chunks and commands. Each pass over it settles the
commands of one kind and leaves all other parts as they are, so that the passes together translate
the block part by part, with a heading above its first parameter.
-/

namespace Bindery.Markup

/-! ## Parts -/

/-- A part of a block of documentation. -/
inductive MarkedPart where
  /-- A chunk without commands. -/
  | plain (t : Text)
  /-- The command that begins a summary. -/
  | brief
  /-- The command that begins an item of a list. -/
  | item
  /-- The command that begins the description of the result. -/
  | result
  /-- The command that begins the description of a parameter. -/
  | param (name : Text)
  /-- A name that the text refers to. -/
  | mention (name : Text)
  deriving DecidableEq, Repr

namespace MarkedPart

/-- A part as it stands in the block. -/
def text : MarkedPart → Text
  | plain t => t
  | brief => "\\brief "
  | item => "\\li "
  | result => "\\return "
  | param name => "\\param " ++ name
  | mention name => "\\a " ++ name

/-- What a part becomes in a comment. -/
def written : MarkedPart → Text
  | plain t => t
  | brief => []
  | item => "- "
  | result => "*Returns:* "
  | param name => "- ``" ++ name ++ "``: "
  | mention name => "``" ++ name ++ "``"

/-- The letter behind the backslash that tells the commands apart. -/
def sign? : MarkedPart → Option Char
  | plain _ => none
  | brief => some 'b'
  | item => some 'l'
  | result => some 'r'
  | param _ => some 'p'
  | mention _ => some 'a'

/-- The name that a part ends with. -/
def name? : MarkedPart → Option Text
  | param name | mention name => some name
  | _ => none

/-- A chunk has no backslash in it, and a name is not empty and has name characters only. -/
def IsProper : MarkedPart → Prop
  | plain t => '\\' ∉ t
  | param name | mention name => name ≠ [] ∧ ∀ c ∈ name, isNamePart c = true
  | _ => True

instance : (part : MarkedPart) → Decidable part.IsProper
  | plain _ => inferInstanceAs (Decidable (_ ∉ _))
  | param _ | mention _ => inferInstanceAs (Decidable (_ ∧ _))
  | brief | item | result => inferInstanceAs (Decidable True)

/-- A command of one kind becomes plain text. -/
def settle (sign : Char) (part : MarkedPart) : MarkedPart :=
  if part.sign? = some sign then plain part.written else part

end MarkedPart

open MarkedPart

/-- A block of documentation that consists of some parts. -/
def texts (parts : List MarkedPart) : Text := parts.flatMap MarkedPart.text

/-- A name ends before some parts: there are none, or a chunk comes first that begins with another
character. -/
def EndsName : List MarkedPart → Prop
  | [] => True
  | plain (c :: _) :: _ => isNamePart c = false
  | _ => False

instance decidableEndsName : (parts : List MarkedPart) → Decidable (EndsName parts)
  | [] => inferInstanceAs (Decidable True)
  | plain (_ :: _) :: _ => inferInstanceAs (Decidable (_ = false))
  | plain [] :: _ | brief :: _ | item :: _ | result :: _ | param _ :: _ | mention _ :: _ =>
    inferInstanceAs (Decidable False)

/-- All parts are proper, and all names end where their parts do. -/
def IsMarked : List MarkedPart → Prop
  | [] => True
  | part :: parts => part.IsProper ∧ (part.name? ≠ none → EndsName parts) ∧ IsMarked parts

instance decidableIsMarked : (parts : List MarkedPart) → Decidable (IsMarked parts)
  | [] => inferInstanceAs (Decidable True)
  | _ :: parts =>
    have := decidableIsMarked parts
    inferInstanceAs (Decidable (_ ∧ _ ∧ _))

/-- What stands above the first parameter. -/
def paramHeading : Text := "*Arguments*:\n"

/-- The translation of some parts, one after another. The flag says that the heading stands already
above a parameter before them. -/
def translated (headed : Bool) : List MarkedPart → Text
  | [] => []
  | param name :: parts =>
    (if headed then [] else paramHeading) ++ (param name).written ++ translated true parts
  | part :: parts => part.written ++ translated headed parts

/-- Put the heading above the first parameter. -/
def headed : List MarkedPart → List MarkedPart
  | [] => []
  | param name :: parts => plain paramHeading :: param name :: parts
  | part :: parts => part :: headed parts

section Parts

variable {part : MarkedPart} {parts : List MarkedPart} {sign c : Char}

theorem texts_cons (part : MarkedPart) (parts : List MarkedPart) :
    texts (part :: parts) = part.text ++ texts parts := rfl

/-- The name that a proper part ends with. -/
theorem MarkedPart.IsProper.name {name : Text} (hproper : part.IsProper)
    (h : part.name? = some name) : name ≠ [] ∧ ∀ c ∈ name, isNamePart c = true := by
  cases part with
  | param _ | mention _ =>
    cases h
    exact hproper
  | _ => cases h

theorem not_mem_of_isNamePart {name : Text} (h : ∀ c ∈ name, isNamePart c = true) :
    '\\' ∉ name := fun hmem => absurd (h _ hmem) (by decide)

private theorem commands_eq :
    Text.ofString "\\brief " = '\\' :: 'b' :: ['r', 'i', 'e', 'f', ' '] ∧
      Text.ofString "\\li " = '\\' :: 'l' :: ['i', ' '] ∧
      Text.ofString "\\return " = '\\' :: 'r' :: ['e', 't', 'u', 'r', 'n', ' '] ∧
      Text.ofString "\\param " = '\\' :: 'p' :: ['a', 'r', 'a', 'm', ' '] ∧
      Text.ofString "\\a " = '\\' :: 'a' :: [' '] := by
  with_unfolding_all decide

/-- A command begins with a backslash and the letter that tells it from the others, and there is no
other backslash in it. -/
theorem exists_text_eq (hproper : part.IsProper) (h : part.sign? = some sign) :
    ∃ rest, part.text = '\\' :: sign :: rest ∧ '\\' ∉ sign :: rest := by
  obtain ⟨hbrief, hitem, hresult, hparam, hmention⟩ := commands_eq
  cases part with
  | plain t => cases h
  | brief =>
    cases h
    exact ⟨_, hbrief, by decide⟩
  | item =>
    cases h
    exact ⟨_, hitem, by decide⟩
  | result =>
    cases h
    exact ⟨_, hresult, by decide⟩
  | param name =>
    cases h
    have hname := not_mem_of_isNamePart hproper.2
    refine ⟨_, by rw [text, hparam]; rfl, ?_⟩
    simpa using hname
  | mention name =>
    cases h
    have hname := not_mem_of_isNamePart hproper.2
    refine ⟨_, by rw [text, hmention]; rfl, ?_⟩
    simpa using hname

/-- What a part becomes has no backslash in it. -/
theorem not_mem_written (hproper : part.IsProper) : '\\' ∉ part.written := by
  have hsigns : ∀ t ∈ [Text.ofString "- ", "*Returns:* ", "- ``", "``: ", "``"], '\\' ∉ t := by
    with_unfolding_all decide
  cases part with
  | plain t => exact hproper
  | brief => exact List.not_mem_nil
  | item | result => exact hsigns _ (by simp [written])
  | param name | mention name =>
    have hname := not_mem_of_isNamePart hproper.2
    rw [written, List.mem_append, List.mem_append]
    rintro ((hmem | hmem) | hmem)
    · exact hsigns _ (by simp) hmem
    · exact hname hmem
    · exact hsigns _ (by simp) hmem

theorem endsName_iff : EndsName parts ↔
    parts = [] ∨ ∃ c t rest, parts = plain (c :: t) :: rest ∧ isNamePart c = false := by
  constructor
  · intro h
    match parts, h with
    | [], _ => exact Or.inl rfl
    | plain (c :: t) :: rest, h => exact Or.inr ⟨c, t, rest, rfl, h⟩
  · rintro (rfl | ⟨c, t, rest, rfl, hc⟩)
    · exact True.intro
    · exact hc

/-- What follows a name in a text does not go on with it. -/
theorem head?_texts (h : EndsName parts) : ∀ c ∈ (texts parts).head?, isNamePart c = false := by
  rcases endsName_iff.mp h with rfl | ⟨c, t, rest, rfl, hc⟩
  · exact nofun
  · intro d hd
    cases hd
    exact hc

/-! ## Parts that a pass leaves as they are -/

theorem EndsName.map_settle (h : EndsName parts) (sign : Char) :
    EndsName (parts.map (settle sign)) := by
  rcases endsName_iff.mp h with rfl | ⟨c, t, rest, rfl, hc⟩
  · exact True.intro
  · exact hc

theorem IsMarked.map_settle (h : IsMarked parts) (sign : Char) :
    IsMarked (parts.map (settle sign)) := by
  induction parts with
  | nil => exact h
  | cons part parts ih =>
    obtain ⟨hproper, hends, hparts⟩ := h
    refine ⟨?_, ?_, ih hparts⟩
    · unfold settle
      split
      · exact not_mem_written hproper
      · exact hproper
    · unfold settle
      split
      · exact fun hname => absurd rfl hname
      · exact fun hname => (hends hname).map_settle sign

/-- The heading is put where no name ends. -/
theorem EndsName.headed_eq (h : EndsName parts) : EndsName (headed parts) := by
  rcases endsName_iff.mp h with rfl | ⟨c, t, rest, rfl, hc⟩
  · exact True.intro
  · exact hc

theorem IsMarked.headed_eq (h : IsMarked parts) : IsMarked (headed parts) := by
  induction parts with
  | nil => exact h
  | cons part parts ih =>
    obtain ⟨hproper, hends, hparts⟩ := h
    cases part with
    | param name =>
      refine ⟨?_, fun hname => absurd rfl hname, hproper, hends, hparts⟩
      show '\\' ∉ paramHeading
      with_unfolding_all decide
    | _ => exact ⟨hproper, fun hname => (hends hname).headed_eq, ih hparts⟩

/-- No command but those with its letter begins in a text. -/
theorem not_infix_texts (h : IsMarked parts) (hsign : ∀ part ∈ parts, part.sign? ≠ some c)
    (word : Text) : ¬ '\\' :: c :: word <:+: texts parts := by
  induction parts with
  | nil => exact fun hword => by simp [texts] at hword
  | cons part parts ih =>
    obtain ⟨hproper, _, hparts⟩ := h
    have hbehind := ih hparts fun other hother => hsign other (List.mem_cons_of_mem part hother)
    rw [texts_cons]
    cases hpart : part.sign? with
    | none =>
      cases part with
      | plain t => exact mt (Text.infix_append_iff_of_not_mem hproper).mp hbehind
      | _ => cases hpart
    | some d =>
      obtain ⟨rest, htext, hrest⟩ := exists_text_eq hproper hpart
      rw [htext, List.cons_append, List.infix_cons_iff]
      rintro (hstart | hword)
      · obtain ⟨_, hstart⟩ := List.cons_prefix_cons.mp hstart
        obtain ⟨rfl, _⟩ := List.cons_prefix_cons.mp hstart
        exact hsign part List.mem_cons_self hpart
      · exact hbehind ((Text.infix_append_iff_of_not_mem hrest).mp hword)

/-! ## Passes -/

/-- A rule settles the commands with a letter: it recognises exactly these, and each as a whole. -/
structure Settles (rule : Text.Rule) (sign : Char) : Prop where
  ignoresLast : rule.IgnoresLast
  /-- It recognises nothing where there is no backslash. -/
  starts : ∀ c t, c ≠ '\\' → rule none c t = none
  /-- Nor where another letter is behind it. -/
  other : ∀ c t, c ≠ sign → rule none '\\' (c :: t) = none
  /-- Its commands are replaced. -/
  change : ∀ (part : MarkedPart) (rest : Text), part.IsProper → part.sign? = some sign →
    (part.name? ≠ none → ∀ c ∈ rest.head?, isNamePart c = false) →
      ∃ u, part.text = '\\' :: u ∧ rule none '\\' (u ++ rest) = some ⟨part.written, u.length⟩

/-- A pass leaves all parts but its commands as they are. -/
theorem Settles.rewrite_texts {rule : Text.Rule} (hrule : Settles rule sign)
    (h : IsMarked parts) : Text.rewrite rule (texts parts) = texts (parts.map (settle sign)) := by
  induction parts with
  | nil => rfl
  | cons part parts ih =>
    obtain ⟨hproper, hends, hparts⟩ := h
    rw [texts_cons, List.map_cons, texts_cons, ← ih hparts, settle]
    by_cases hsign : part.sign? = some sign
    · obtain ⟨u, htext, hchange⟩ := hrule.change part (texts parts) hproper hsign
        fun hname => head?_texts (hends hname)
      rw [if_pos hsign, htext, List.cons_append, hrule.ignoresLast.rewrite_append hchange]
      rfl
    · rw [if_neg hsign]
      cases hother : part.sign? with
      | none =>
        cases part with
        | plain t => exact hrule.ignoresLast.rewrite_append_of_not_mem hrule.starts hproper
        | _ => cases hother
      | some d =>
        obtain ⟨rest, htext, hrest⟩ := exists_text_eq hproper hother
        have hd : d ≠ sign := fun he => hsign (by rw [hother, he])
        rw [htext, List.cons_append, List.cons_append,
          hrule.ignoresLast.rewrite_cons (hrule.other d _ hd), ← List.cons_append,
          hrule.ignoresLast.rewrite_append_of_not_mem hrule.starts hrest]
        rfl

/-- A fixed text that is replaced is a command if all parts with its letter are that. -/
theorem settles_literal {old new word : Text} (hold : old = '\\' :: sign :: word)
    (hparts : ∀ part : MarkedPart, part.sign? = some sign → part.text = old ∧ part.written = new) :
    Settles (Text.Rule.literal old new) sign where
  ignoresLast := Text.Rule.ignoresLast_literal old new
  starts c t hc := by
    rw [hold]
    exact Text.Rule.literal_eq_none_of_ne hc
  other c t hc := by
    refine Text.Rule.literal_eq_none_iff.mpr (Bool.eq_false_iff.mpr fun hstarts => ?_)
    obtain ⟨rest, hrest⟩ := Text.startsWith_iff.mp hstarts
    rw [hold] at hrest
    exact hc (List.cons.inj (List.cons.inj hrest).2).1
  change part rest _ hsign _ := by
    obtain ⟨htext, hwritten⟩ := hparts part hsign
    refine ⟨sign :: word, htext.trans hold, Text.Rule.literal_eq_some_iff.mpr ⟨?_, ?_⟩⟩
    · exact Text.startsWith_iff.mpr ⟨rest, by rw [hold]; rfl⟩
    · rw [hwritten, hold]
      rfl

/-- A command with a name behind it is settled if all parts with its letter are such. -/
theorem settles_nameRule {command left right word : Text}
    (hcommand : command = '\\' :: sign :: word)
    (hparts : ∀ part : MarkedPart, part.sign? = some sign → ∃ name, part.name? = some name ∧
      part.text = command ++ name ∧ part.written = left ++ name ++ right) :
    Settles (nameRule command left right) sign where
  ignoresLast _ _ _ := rfl
  starts c t hc := by
    have hnone : Text.after? command (c :: t) = none := by
      rw [hcommand]
      exact if_neg (Ne.symm hc)
    rw [nameRule, hnone]
  other c t hc := by
    have hnone : Text.after? command ('\\' :: c :: t) = none := by
      rw [hcommand]
      exact (if_pos rfl).trans (if_neg (Ne.symm hc))
    rw [nameRule, hnone]
  change part rest hproper hsign hends := by
    obtain ⟨name, hname, htext, hwritten⟩ := hparts part hsign
    obtain ⟨hne, hall⟩ := hproper.name hname
    have htake : (name ++ rest).takeWhile isNamePart = name := by
      rw [List.takeWhile_append_of_pos hall]
      have hstop : rest.takeWhile isNamePart = [] := by
        cases rest with
        | nil => rfl
        | cons c rest =>
          have hc := hends (by rw [hname]; exact Option.some_ne_none name) c rfl
          rw [List.takeWhile_cons, hc]
          rfl
      rw [hstop, List.append_nil]
    refine ⟨sign :: (word ++ name), by rw [htext, hcommand]; rfl, ?_⟩
    have hwhole : '\\' :: (sign :: (word ++ name) ++ rest) = command ++ (name ++ rest) := by
      rw [hcommand]
      simp only [List.cons_append, List.append_assoc]
    rw [nameRule, hwhole, Text.after?_append]
    dsimp only
    rw [htake, if_neg (mt List.isEmpty_iff.mp hne), hwritten, hcommand]
    simp only [List.length_cons, List.length_append]
    have hlength : word.length + 1 + 1 + name.length - 1 = word.length + name.length + 1 := by omega
    rw [hlength]

theorem settles_brief : Settles (Text.Rule.literal "\\brief " "") 'b' :=
  settles_literal commands_eq.1 fun part hsign => by
    cases part with
    | brief => exact ⟨rfl, by with_unfolding_all rfl⟩
    | _ => cases hsign

theorem settles_item : Settles (Text.Rule.literal "\\li " "- ") 'l' :=
  settles_literal commands_eq.2.1 fun part hsign => by
    cases part with
    | item => exact ⟨rfl, rfl⟩
    | _ => cases hsign

theorem settles_result : Settles (Text.Rule.literal "\\return " "*Returns:* ") 'r' :=
  settles_literal commands_eq.2.2.1 fun part hsign => by
    cases part with
    | result => exact ⟨rfl, rfl⟩
    | _ => cases hsign

theorem settles_param : Settles (nameRule "\\param " "- ``" "``: ") 'p' :=
  settles_nameRule commands_eq.2.2.2.1 fun part hsign => by
    cases part with
    | param name => exact ⟨name, rfl, rfl, rfl⟩
    | _ => cases hsign

theorem settles_mention : Settles (nameRule "\\a " "``" "``") 'a' :=
  settles_nameRule commands_eq.2.2.2.2 fun part hsign => by
    cases part with
    | mention name => exact ⟨name, rfl, rfl, rfl⟩
    | _ => cases hsign

/-- The heading is put above the first parameter: nothing before that begins like one. -/
theorem headParameters_texts (h : IsMarked parts) :
    headParameters (texts parts) = texts (headed parts) := by
  have hword : Text.ofString "\\param" = '\\' :: ['p', 'a', 'r', 'a', 'm'] := by
    with_unfolding_all decide
  have hnew : Text.ofString "*Arguments*:\n\\param" = paramHeading ++ Text.ofString "\\param" := by
    with_unfolding_all decide
  have hparam : ∀ name, (param name).text = Text.ofString "\\param" ++ ' ' :: name := by
    intro name
    rw [text, commands_eq.2.2.2.1, hword]
    rfl
  unfold headParameters
  induction parts with
  | nil =>
    rw [hword]
    rfl
  | cons part parts ih =>
    obtain ⟨hproper, _, hparts⟩ := h
    have hbehind := ih hparts
    have hkept : part.sign? ≠ some 'p' → Text.replaceFirst (Text.ofString "\\param")
        (Text.ofString "*Arguments*:\n\\param") (part.text ++ texts parts) =
          part.text ++ texts (headed parts) := by
      intro hother
      rw [← hbehind, hword]
      cases hsign : part.sign? with
      | none =>
        cases part with
        | plain t => exact Text.replaceFirst_append_of_not_mem hproper _ _ _
        | _ => cases hsign
      | some d =>
        obtain ⟨rest, htext, hrest⟩ := exists_text_eq hproper hsign
        have hd : 'p' ≠ d := fun he => hother (by rw [hsign, he])
        have hnone : Text.after? ['\\', 'p', 'a', 'r', 'a', 'm']
            ('\\' :: d :: (rest ++ texts parts)) = none := (if_pos rfl).trans (if_neg hd)
        rw [htext, List.cons_append, List.cons_append, Text.replaceFirst_cons hnone,
          ← List.cons_append, Text.replaceFirst_append_of_not_mem hrest]
        rfl
    cases part with
    | param name =>
      rw [texts_cons, hparam, List.append_assoc, Text.replaceFirst_append (by rw [hword]; nofun),
        hnew, headed, texts_cons, texts_cons, hparam, text, List.append_assoc, List.append_assoc]
    | _ => exact hkept nofun

/-! ## The whole translation -/

/-- All passes together settle all commands. -/
theorem settle_all (part : MarkedPart) : settle 'r' (settle 'a' (settle 'l' (settle 'p'
    (settle 'b' part)))) = plain part.written := by
  cases part <;> rfl

theorem headed_map_settle (parts : List MarkedPart) :
    headed (parts.map (settle 'b')) = (headed parts).map (settle 'b') := by
  induction parts with
  | nil => rfl
  | cons part parts ih =>
    cases part with
    | param name => rfl
    | _ => exact congrArg (List.cons _) ih

/-- Behind the heading all parts are just written. -/
theorem translated_true (parts : List MarkedPart) :
    translated true parts = parts.flatMap written := by
  induction parts with
  | nil => rfl
  | cons part parts ih =>
    cases part with
    | _ => exact congrArg (_ ++ ·) ih

theorem flatMap_headed (parts : List MarkedPart) :
    (headed parts).flatMap written = translated false parts := by
  induction parts with
  | nil => rfl
  | cons part parts ih =>
    cases part with
    | param name =>
      rw [headed, translated, translated_true, List.flatMap_cons, List.flatMap_cons,
        ← List.append_assoc]
      rfl
    | _ => exact congrArg (_ ++ ·) ih

/-- **Documentation is translated part by part.** Where a block, without the blanks around it,
consists of proper parts and all names end where their parts do, the passes write the translation of
its parts, one after another, without the library's beginning in references to types. -/
theorem commentText_eq_translated {block : Text} (hblock : Text.trim block = texts parts)
    (h : IsMarked parts) : commentText block = withoutLeads (translated false parts) := by
  have hword : openMark = '\\' :: 'c' :: ['o', 'd', 'e'] := by with_unfolding_all decide
  have hcode : ¬ openMark <:+: texts parts := by
    rw [hword]
    refine not_infix_texts h (fun part _ => ?_) _
    cases part <;> simp [sign?]
  have hbrief := h.map_settle 'b'
  have hheaded := hbrief.headed_eq
  have hparam := hheaded.map_settle 'p'
  have hitem := hparam.map_settle 'l'
  have hmention := hitem.map_settle 'a'
  have hfirst : headParameters (Text.replace "\\brief " "" (texts parts)) =
      texts (headed (parts.map (settle 'b'))) :=
    (congrArg headParameters (settles_brief.rewrite_texts h)).trans (headParameters_texts hbrief)
  have hnext : Text.replace "\\li " "- "
      (listParameters (texts (headed (parts.map (settle 'b'))))) =
        texts (((headed (parts.map (settle 'b'))).map (settle 'p')).map (settle 'l')) :=
    (congrArg _ (settles_param.rewrite_texts hheaded)).trans (settles_item.rewrite_texts hparam)
  have hlast := (congrArg (Text.replace "\\return " "*Returns:* ")
    (settles_mention.rewrite_texts hitem)).trans (settles_result.rewrite_texts hmention)
  unfold commentText
  dsimp only
  rw [hblock, dropExamples_eq_self (Or.inl hcode), hfirst, hnext, dropLeads_eq_withoutLeads,
    quoteNames, hlast, headed_map_settle, List.map_map, List.map_map, List.map_map, List.map_map,
    ← flatMap_headed, texts, List.flatMap_map]
  exact congrArg (fun f => withoutLeads ((headed parts).flatMap f))
    (funext fun part => congrArg text (settle_all part))

/-- The documentation of a function that draws, with commands of all kinds. -/
def drawParts : List MarkedPart :=
  [brief, plain "Draw sfViews\n", item, plain "slow\n", param "view", plain " See ", mention "n",
    plain "\n", param "n", plain " (int)\n", result, plain "mysfView"]

/-- Blanks around it do not matter, and what it refers to is a type at the start of a word only. -/
theorem commentText_eq_translated_drawParts :
    Text.trim (' ' :: (texts drawParts ++ ['\n'])) = texts drawParts ∧ IsMarked drawParts ∧
      commentText (' ' :: (texts drawParts ++ ['\n'])) = "Draw Views\n- slow\n" ++
        "*Arguments*:\n- ``view``:  See ``n``\n- ``n``:  (int)\n*Returns:* mysfView" := by
  have htrim : Text.trim (' ' :: (texts drawParts ++ ['\n'])) = texts drawParts := by
    with_unfolding_all decide
  have hmarked : IsMarked drawParts := by with_unfolding_all decide
  refine ⟨htrim, hmarked, (commentText_eq_translated htrim hmarked).trans ?_⟩
  with_unfolding_all decide

end Parts

end Bindery.Markup
