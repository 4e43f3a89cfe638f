import Bindery.Proofs.ExampleText

/-!
# Marks of examples in comments

A mark of an example comes into a comment in two ways. The last example is not closed, when the
blanks behind its closing mark, the line end among them, are trimmed off. Or the text around an
example that is left out, or around a command that is dropped, joins up to a mark. Behind that, no
pass makes a mark or takes one away.
-/

namespace Bindery.Markup

/-! ## Passes that leave marks as they are -/

/-- What the marks have behind their backslash. -/
def markTails : List Text := [['c', 'o', 'd', 'e'], ['e', 'n', 'd', 'c', 'o', 'd', 'e']]

/-- A rule recognises commands that begin with a letter, and what it writes for one begins in some
way. There is one backslash in a command, and none in what is written. -/
structure IsCommandRule (rule : Text.Rule) (sign : Char) (lead : Text) : Prop where
  /-- A backslash comes first. -/
  initial : ∀ {last c t change}, rule last c t = some change → c = '\\'
  /-- The letter is behind it. -/
  split : ∀ {last c t change}, rule last c t = some change → ∃ m v, t = (sign :: m) ++ v ∧
    change.extra = (sign :: m).length ∧ '\\' ∉ sign :: m
  /-- The command is replaced. -/
  written : ∀ {last c t change}, rule last c t = some change → lead <+: change.text ∧
    '\\' ∉ change.text

section Marks

variable {rule : Text.Rule} {sign c : Char} {lead t old new word : Text}

theorem hasMark_iff : HasMark t ↔ ∃ word ∈ markTails, '\\' :: word <:+: t := by
  have hmarks : openMark = '\\' :: ['c', 'o', 'd', 'e'] ∧
      closeMark = '\\' :: ['e', 'n', 'd', 'c', 'o', 'd', 'e'] := by
    with_unfolding_all decide
  rw [HasMark, hmarks.1, hmarks.2, markTails]
  simp

/-- A fixed text is such a command. -/
theorem isCommandRule_literal (word : Text) (hold : old = '\\' :: sign :: word)
    (hword : '\\' ∉ sign :: word) (hnew : '\\' ∉ new) :
    IsCommandRule (Text.Rule.literal old new) sign new where
  initial h := by
    obtain ⟨hstarts, _⟩ := Text.Rule.literal_eq_some_iff.mp h
    obtain ⟨rest, hrest⟩ := Text.startsWith_iff.mp hstarts
    rw [hold] at hrest
    exact (List.cons.inj hrest).1
  split h := by
    obtain ⟨hstarts, rfl⟩ := Text.Rule.literal_eq_some_iff.mp h
    obtain ⟨rest, hrest⟩ := Text.startsWith_iff.mp hstarts
    rw [hold] at hrest
    refine ⟨word, rest, (List.cons.inj hrest).2, ?_, hword⟩
    rw [hold]
    rfl
  written h := by
    obtain ⟨_, rfl⟩ := Text.Rule.literal_eq_some_iff.mp h
    exact ⟨List.prefix_rfl, hnew⟩

/-- And so is one with a name behind it. -/
theorem isCommandRule_nameRule (word : Text) {command left right : Text}
    (hcommand : command = '\\' :: sign :: word) (hword : '\\' ∉ sign :: word)
    (hleft : '\\' ∉ left) (hright : '\\' ∉ right) :
    IsCommandRule (nameRule command left right) sign left := by
  have hsome : ∀ {last c t change}, nameRule command left right last c t = some change →
      ∃ name v, c :: t = command ++ (name ++ v) ∧ '\\' ∉ name ∧
        change = ⟨left ++ name ++ right, command.length + name.length - 1⟩ := by
    intro last c t change h
    unfold nameRule at h
    split at h
    · next rest hrest =>
      dsimp only at h
      split at h
      · cases h
      · refine ⟨rest.takeWhile isNamePart, rest.dropWhile isNamePart, ?_, ?_,
          (Option.some.inj h).symm⟩
        · rw [List.takeWhile_append_dropWhile]
          exact Text.after?_eq_some_iff.mp hrest
        · exact fun hmem => absurd (List.mem_takeWhile_imp hmem) (by decide)
    · cases h
  refine ⟨?_, ?_, ?_⟩
  · intro last c t change h
    obtain ⟨name, v, htext, _, _⟩ := hsome h
    rw [hcommand] at htext
    exact (List.cons.inj htext).1
  · intro last c t change h
    obtain ⟨name, v, htext, hname, rfl⟩ := hsome h
    rw [hcommand] at htext
    refine ⟨word ++ name, v, ?_, ?_, ?_⟩
    · have hbehind : t = sign :: (word ++ (name ++ v)) := (List.cons.inj htext).2
      rw [hbehind, List.cons_append, List.append_assoc]
    · rw [hcommand]
      simp only [List.length_cons, List.length_append]
      omega
    · rw [← List.cons_append, List.mem_append]
      exact not_or.mpr ⟨hword, hname⟩
  · intro last c t change h
    obtain ⟨name, v, _, hname, rfl⟩ := hsome h
    refine ⟨?_, ?_⟩
    · rw [List.append_assoc]
      exact List.prefix_append _ _
    · simp only [List.mem_append]
      exact not_or.mpr ⟨not_or.mpr ⟨hleft, hname⟩, hright⟩

/-- A rule for commands leaves a word alone in which another letter is behind the backslash. -/
theorem IsCommandRule.leavesAlone (h : IsCommandRule rule sign lead) {d : Char}
    (hword : '\\' ∉ d :: word) (hsign : d ≠ sign) : rule.LeavesAlone '\\' (d :: word) where
  initial hchange := by
    rw [h.initial hchange]
    exact hword
  split hchange := by
    obtain ⟨m, v, rfl, hextra, hm⟩ := h.split hchange
    refine ⟨sign :: m, v, rfl, hextra, fun hoccurs => ?_⟩
    rcases List.infix_cons_iff.mp hoccurs with hstart | hoccurs
    · obtain ⟨_, hstart⟩ := List.cons_prefix_cons.mp hstart
      exact absurd (List.cons_prefix_cons.mp hstart).1 hsign
    · exact (Text.infix_append_iff_of_not_mem hm).mp hoccurs

/-- It makes no word that lacks the character that it writes first. -/
theorem IsCommandRule.makesNo {d : Char} (h : IsCommandRule rule sign lead)
    (hlead : lead.head? = some d) (hd : d ∉ word) : rule.MakesNo '\\' word where
  text hchange := (h.written hchange).2
  next hchange := by
    obtain ⟨rest, hrest⟩ := (h.written hchange).1
    obtain ⟨tail, rfl⟩ := List.head?_eq_some_iff.mp hlead
    intro e he
    rw [← hrest] at he
    rw [← Option.some.inj he]
    exact hd

/-- The marks are left alone where no command begins like them. -/
theorem IsCommandRule.leavesAlone_of_mem (h : IsCommandRule rule sign lead)
    (hsign : sign ≠ 'c' ∧ sign ≠ 'e') (hword : word ∈ markTails) :
    rule.LeavesAlone '\\' word := by
  rcases List.mem_pair.mp hword with rfl | rfl
  · exact h.leavesAlone (by decide) hsign.1.symm
  · exact h.leavesAlone (by decide) hsign.2.symm

theorem IsCommandRule.hasMark (h : IsCommandRule rule sign lead)
    (hsign : sign ≠ 'c' ∧ sign ≠ 'e') (hmark : HasMark t) : HasMark (Text.rewrite rule t) := by
  obtain ⟨word, hword, hoccurs⟩ := hasMark_iff.mp hmark
  exact hasMark_iff.mpr ⟨word, hword, (h.leavesAlone_of_mem hsign hword).infix_rewriteFrom hoccurs⟩

/-- And none is made where a command is replaced by something that begins with no letter of them. -/
theorem IsCommandRule.hasMark_rewrite_iff {d : Char} (h : IsCommandRule rule sign lead)
    (hsign : sign ≠ 'c' ∧ sign ≠ 'e') (hlead : lead.head? = some d)
    (hd : ∀ word ∈ markTails, d ∉ word) : HasMark (Text.rewrite rule t) ↔ HasMark t := by
  rw [hasMark_iff, hasMark_iff]
  refine exists_congr fun word => and_congr_right fun hword => ?_
  exact (h.makesNo hlead (hd word hword)).infix_rewriteFrom_iff (h.leavesAlone_of_mem hsign hword)

/-- What is dropped of a reference belongs to no mark, and the capital behind it does not either. -/
theorem hasMark_dropLeads_iff : HasMark (dropLeads t) ↔ HasMark t := by
  have hlead : libraryLead = ['s', 'f'] := by with_unfolding_all decide
  have hsome : ∀ {last c t change}, referenceRule last c t = some change →
      ∃ d v, c = 's' ∧ t = 'f' :: d :: v ∧ d.isUpper = true ∧ change = ⟨[], 1⟩ := by
    intro last c t change h
    unfold referenceRule at h
    rw [hlead] at h
    split at h
    · cases h
    · split at h
      · next d v hafter =>
        split at h
        · next hupper =>
          obtain ⟨rfl, rfl⟩ := List.cons.inj (Text.after?_eq_some_iff.mp hafter)
          exact ⟨d, v, rfl, rfl, hupper, (Option.some.inj h).symm⟩
        · cases h
      · cases h
  have hletters : ∀ word ∈ markTails, 's' ∉ word ∧ ∀ d ∈ word, d.isUpper = false := by decide
  have hleaves : ∀ word ∈ markTails, referenceRule.LeavesAlone '\\' word := by
    intro word hword
    refine ⟨fun h => ?_, fun h => ?_⟩
    · obtain ⟨_, _, rfl, _⟩ := hsome h
      exact (hletters word hword).1
    · obtain ⟨d, v, rfl, rfl, _, rfl⟩ := hsome h
      refine ⟨['f'], d :: v, rfl, rfl, fun hoccurs => ?_⟩
      exact (Text.infix_append_iff_of_not_mem (s := ['s', 'f']) (by decide)).mp hoccurs
  have hmakes : ∀ word ∈ markTails, referenceRule.MakesNo '\\' word := by
    intro word hword
    refine ⟨fun h => ?_, fun h e he hmem => ?_⟩
    · obtain ⟨_, _, _, _, _, rfl⟩ := hsome h
      exact List.not_mem_nil
    · obtain ⟨d, v, rfl, rfl, hupper, rfl⟩ := hsome h
      have hnone : referenceRule (some 'f') d v = none := by
        have hword : (some 'f').any Text.isWord = true := by with_unfolding_all decide
        rw [referenceRule, hword]
        rfl
      have hread : Text.rewriteFrom referenceRule (some 's') 1 ('f' :: d :: v) =
          d :: Text.rewriteFrom referenceRule (some d) 0 v := Text.rewriteFrom_of_none hnone
      rw [List.nil_append, hread] at he
      rw [Option.some.inj he, (hletters word hword).2 e hmem] at hupper
      cases hupper
  rw [hasMark_iff, hasMark_iff]
  exact exists_congr fun word => and_congr_right fun hword =>
    (hmakes word hword).infix_rewriteFrom_iff (hleaves word hword)

/-- The heading belongs to no mark, and it stands before a backslash. -/
theorem hasMark_headParameters_iff : HasMark (headParameters t) ↔ HasMark t := by
  have hletters : ∀ word ∈ markTails, '\\' ∉ word ∧ '*' ∉ '\\' :: word := by decide
  obtain ⟨heading, rest, hheading, hold, hnew⟩ : ∃ heading rest, '\\' ∉ heading ∧
      Text.ofString "\\param" = '\\' :: rest ∧
        Text.ofString "*Arguments*:\n\\param" = '*' :: (heading ++ '\\' :: rest) :=
    ⟨Text.ofString "Arguments*:\n", Text.ofString "param", by with_unfolding_all decide,
      by with_unfolding_all decide, by with_unfolding_all decide⟩
  rw [headParameters, Text.replaceFirst]
  cases hcut : Text.cutAt? (Text.ofString "\\param") t with
  | none => rfl
  | some parts =>
    obtain ⟨left, right⟩ := parts
    rw [Text.eq_of_cutAt? hcut, hasMark_iff, hasMark_iff]
    dsimp only
    refine exists_congr fun word => and_congr_right fun hword => ?_
    obtain ⟨hplain, hstar⟩ := hletters word hword
    have hleft : '\\' :: word <:+: left ++ '*' :: heading ↔ '\\' :: word <:+: left := by
      rw [Text.infix_append_cons_iff hstar, or_iff_left]
      exact fun hoccurs => hheading (hoccurs.subset List.mem_cons_self)
    have hwritten : left ++ '*' :: (heading ++ '\\' :: rest) ++ right =
        (left ++ '*' :: heading) ++ '\\' :: (rest ++ right) := by simp
    have hread : left ++ '\\' :: rest ++ right = left ++ '\\' :: (rest ++ right) := by simp
    rw [hnew, hold, hwritten, hread, Text.infix_append_cons_self_iff hplain,
      Text.infix_append_cons_self_iff hplain, hleft]

/-! ## Marks in a comment -/

theorem isCommandRule_brief :
    IsCommandRule (Text.Rule.literal "\\brief " "") 'b' (Text.ofString "") :=
  isCommandRule_literal "rief " (by with_unfolding_all decide) (by with_unfolding_all decide)
    (by with_unfolding_all decide)

theorem hasMark_listParameters_iff : HasMark (listParameters t) ↔ HasMark t := by
  have hrule : IsCommandRule (nameRule "\\param " "- ``" "``: ") 'p' (Text.ofString "- ``") :=
    isCommandRule_nameRule "aram " (by with_unfolding_all decide) (by with_unfolding_all decide)
      (by with_unfolding_all decide) (by with_unfolding_all decide)
  exact hrule.hasMark_rewrite_iff (by decide) (by with_unfolding_all rfl) (by decide)

theorem hasMark_replace_item_iff : HasMark (Text.replace "\\li " "- " t) ↔ HasMark t := by
  have hrule : IsCommandRule (Text.Rule.literal "\\li " "- ") 'l' (Text.ofString "- ") :=
    isCommandRule_literal "i " (by with_unfolding_all decide) (by with_unfolding_all decide)
      (by with_unfolding_all decide)
  exact hrule.hasMark_rewrite_iff (by decide) (by with_unfolding_all rfl) (by decide)

theorem hasMark_quoteNames_iff : HasMark (quoteNames t) ↔ HasMark t := by
  have hrule : IsCommandRule (nameRule "\\a " "``" "``") 'a' (Text.ofString "``") :=
    isCommandRule_nameRule " " (by with_unfolding_all decide) (by with_unfolding_all decide)
      (by with_unfolding_all decide) (by with_unfolding_all decide)
  exact hrule.hasMark_rewrite_iff (by decide) (by with_unfolding_all rfl) (by decide)

theorem hasMark_replace_result_iff :
    HasMark (Text.replace "\\return " "*Returns:* " t) ↔ HasMark t := by
  have hrule : IsCommandRule (Text.Rule.literal "\\return " "*Returns:* ") 'r'
      (Text.ofString "*Returns:* ") :=
    isCommandRule_literal "eturn " (by with_unfolding_all decide) (by with_unfolding_all decide)
      (by with_unfolding_all decide)
  exact hrule.hasMark_rewrite_iff (by decide) (by with_unfolding_all rfl) (by decide)

/-- The passes behind the first two leave the marks as they are. -/
theorem hasMark_commentText_iff {block : Text} : HasMark (commentText block) ↔
    HasMark (Text.replace "\\brief " "" (dropExamples (Text.trim block))) := by
  rw [commentText, hasMark_dropLeads_iff, hasMark_replace_result_iff, hasMark_quoteNames_iff,
    hasMark_replace_item_iff, hasMark_listParameters_iff, hasMark_headParameters_iff]

/-- **When the marks of examples come into a comment.** Where the marks in a block of documentation
are those of examples, the comment has no mark exactly when, without the blanks around the block, a
line ends at the closing mark of the last example, and what is kept joins up to no mark. -/
theorem not_hasMark_commentText_iff {d : ExampleText} (h : d.IsPlain) :
    ¬ HasMark (commentText d.text) ↔
      d.trimmed.EndsClosed ∧ ¬ HasMark (Text.replace "\\brief " "" d.trimmed.kept) := by
  rw [hasMark_commentText_iff, ← ExampleText.text_trimmed, h.trimmed.dropExamples_eq]
  refine ⟨fun hnone => ⟨?_, hnone⟩, And.right⟩
  by_contra hopen
  have hlast : ∃ b ∈ d.trimmed.blocks.getLast?, b.behind.head? ≠ some '\n' := by
    simpa [ExampleText.EndsClosed] using hopen
  obtain ⟨b, hb, hend⟩ := hlast
  have hkept : openMark <:+: d.trimmed.kept := by
    refine openMark_infix_keptFrom (fun hnil => ?_) fun c hc => ?_
    · rw [hnil] at hb
      cases hb
    · rwa [Option.mem_unique hc hb]
  exact hnone (isCommandRule_brief.hasMark (by decide) (Or.inl hkept))

/-- A block of documentation with an example in the middle. -/
def displayText : ExampleText :=
  { lead := "A window.\nExample:\n"
    blocks := [⟨"\nsfWindow_display(w);\n", "\nSee sfView.\n"⟩] }

/-- The example is left out. -/
theorem not_hasMark_commentText_displayText : displayText.IsPlain ∧
    displayText.trimmed.EndsClosed ∧ ¬ HasMark (commentText displayText.text) := by
  have hplain : displayText.IsPlain := by with_unfolding_all decide
  have hclosed : displayText.trimmed.EndsClosed := by with_unfolding_all decide
  refine ⟨hplain, hclosed, (not_hasMark_commentText_iff hplain).mpr ⟨hclosed, ?_⟩⟩
  with_unfolding_all decide

/-- A block of documentation that ends with its example. -/
def closingText : ExampleText :=
  { lead := "A window.\n", blocks := [⟨"\nsfWindow_display(w);\n", "\n"⟩] }

/-- The example is kept with its marks. -/
theorem hasMark_commentText_closingText : closingText.IsPlain ∧
    commentText closingText.text = "A window.\n\\code\nWindow_display(w);\n\\endcode" ∧
      openMark <:+: commentText closingText.text ∧
        closeMark <:+: commentText closingText.text := by
  with_unfolding_all decide

end Marks

end Bindery.Markup
