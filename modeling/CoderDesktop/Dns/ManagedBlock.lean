import CoderDesktop.Dns.Manager

/-!
# Removing the managed block

`removeManagedBlock` looks for each marker from the start of the file. What it does is
decided by which marker comes first: with the header first it cuts a region out, with the
footer first it writes what stands between them twice.
-/

namespace CoderDesktop.Dns

open Collections

/-! ## The markers -/

/-- The `#` both markers start with. -/
def sign : UInt8 := 35

/-- The header starts with the sign and has it only there. -/
theorem opens_header : Opens sign managedBlockHeader := by decide

/-- The footer starts with the sign and has it only there. -/
theorem opens_footer : Opens sign managedBlockFooter := by decide

/-- Neither marker is the beginning of the other. -/
theorem apart_markers : Apart managedBlockHeader managedBlockFooter := by decide

/-- The sign is no line feed. -/
theorem sign_ne_newline : sign ≠ newline := by decide

/-- The header starts with the sign. -/
theorem header_eq_cons : managedBlockHeader = sign :: managedBlockHeader.tail :=
  opens_header.eq_cons

/-- The text contains neither marker. -/
structure Unmarked (content : Text) : Prop where
  header : ¬ managedBlockHeader <:+: content
  footer : ¬ managedBlockFooter <:+: content

/-! ## What is removed -/

/-- The content of the file after `removeManagedBlock`. -/
def afterRemoval (content : Text) : Text := (cleaned content).getD content

/-- Nothing is removed from nothing. -/
theorem afterRemoval_nil : afterRemoval [] = [] := by decide

/-- The resolver reads what was written. -/
theorem resolvConf_setFile (host : Host) (content : Option Text) :
    (host.setFile resolvConfPath content).resolvConf = content.getD [] := by
  simp [Host.resolvConf, Host.setFile]

/-- Without failures the file is cleaned, if there is one. -/
theorem removeManagedBlock_resolvConf (m : Manager) (resolvConf : Option Text) (host : Host) :
    (m.removeManagedBlock (.succeeds resolvConf) host).host.resolvConf =
      afterRemoval host.resolvConf := by
  unfold Manager.removeManagedBlock Host.readFile TeardownOutcome.succeeds
  cases found : host.files resolvConfPath with
  | none => simp [Host.resolvConf, found, afterRemoval_nil]
  | some content =>
      have same : host.resolvConf = content := by simp [Host.resolvConf, found]
      rw [same]
      cases removed : cleaned content with
      | none => simp [afterRemoval, removed, same]
      | some rest => simp [afterRemoval, removed, Host.writeFile, resolvConf_setFile]

/-- A newline at the start is dropped. -/
def dropNewline (content : Text) : Text :=
  if content.head? = some newline then content.tail else content

/-- One line feed at most is dropped. -/
theorem dropNewline_append (content : Text) :
    ∃ line, content = line ++ dropNewline content ∧ (line = [] ∨ line = [newline]) := by
  cases content with
  | nil => exact ⟨[], rfl, .inl rfl⟩
  | cons first rest =>
      by_cases isNewline : first = newline
      · exact ⟨[newline], by simp [dropNewline, isNewline], .inr rfl⟩
      · exact ⟨[], by simp [dropNewline, isNewline], .inl rfl⟩

/-- A line feed in front is dropped. -/
theorem dropNewline_newline (rest : Text) : dropNewline (newline :: rest) = rest := by
  simp [dropNewline]

/-- From the end of the footer line on. -/
theorem drop_footerEnd (before after : Text) :
    (before ++ (managedBlockFooter ++ after)).drop
      (footerEnd (before ++ (managedBlockFooter ++ after)) before.length) = dropNewline after := by
  have ends : before.length + managedBlockFooter.length =
      (before ++ managedBlockFooter).length := (List.length_append).symm
  simp only [footerEnd, ends, ← List.append_assoc before]
  rw [List.getElem?_append_right (Nat.le_refl _), Nat.sub_self, ← List.head?_eq_getElem?]
  unfold dropNewline
  split
  · rw [← List.drop_drop, List.drop_left, List.drop_one]
  · rw [List.drop_left]

/-- With the header first, the region up to the end of the footer line is cut out. -/
theorem cleaned_of_header_first {before between : Text}
    (header : ¬ managedBlockHeader <:+: before)
    (footer : ¬ managedBlockFooter <:+: before ++ (managedBlockHeader ++ between)) (after : Text) :
    cleaned (before ++ (managedBlockHeader ++ (between ++ (managedBlockFooter ++ after)))) =
      some (before ++ dropNewline after) := by
  have first := index_append opens_header header (between ++ (managedBlockFooter ++ after))
  have second := index_append opens_footer footer after
  have rest := drop_footerEnd (before ++ (managedBlockHeader ++ between)) after
  rw [List.append_assoc, List.append_assoc] at second rest
  simp only [cleaned, first, second, rest, List.take_left]

/-- What follows a nonempty text does not matter. -/
theorem dropNewline_append_of_ne_nil {front : Text} (nonempty : front ≠ []) (rest : Text) :
    dropNewline (front ++ rest) = dropNewline front ++ rest := by
  cases front with
  | nil => exact absurd rfl nonempty
  | cons first more =>
      by_cases isNewline : first = newline
      · simp [dropNewline, isNewline]
      · simp [dropNewline, isNewline]

/-- A header does not start with a newline. -/
theorem dropNewline_append_header (between after : Text) :
    dropNewline (between ++ (managedBlockHeader ++ after)) =
      dropNewline between ++ (managedBlockHeader ++ after) := by
  cases between with
  | nil =>
      rw [List.nil_append, header_eq_cons]
      simp [dropNewline, sign_ne_newline]
  | cons first rest => exact dropNewline_append_of_ne_nil (List.cons_ne_nil _ _) _

/-- With the footer first, what stands between is kept twice. -/
theorem cleaned_of_footer_first {before between : Text}
    (footer : ¬ managedBlockFooter <:+: before)
    (header : ¬ managedBlockHeader <:+: before ++ (managedBlockFooter ++ between)) (after : Text) :
    cleaned (before ++ (managedBlockFooter ++ (between ++ (managedBlockHeader ++ after)))) =
      some (before ++ (managedBlockFooter ++ (between ++
        (dropNewline between ++ (managedBlockHeader ++ after))))) := by
  have first := index_append opens_footer footer (between ++ (managedBlockHeader ++ after))
  have second := index_append opens_header header after
  have rest := drop_footerEnd before (between ++ (managedBlockHeader ++ after))
  have kept : (before ++ (managedBlockFooter ++ (between ++ (managedBlockHeader ++ after)))).take
      (before ++ (managedBlockFooter ++ between)).length =
        before ++ (managedBlockFooter ++ between) := by
    have split : before ++ (managedBlockFooter ++ (between ++ (managedBlockHeader ++ after))) =
        (before ++ (managedBlockFooter ++ between)) ++ (managedBlockHeader ++ after) := by
      simp only [List.append_assoc]
    rw [split, List.take_left]
  rw [List.append_assoc, List.append_assoc] at second
  simp only [cleaned, first, second, rest, kept, dropNewline_append_header, List.append_assoc]

/-- Without one of the markers nothing is found. -/
theorem cleaned_eq_none {content : Text}
    (notBoth : managedBlockHeader <:+: content → ¬ managedBlockFooter <:+: content) :
    cleaned content = none := by
  unfold cleaned
  by_cases occurs : managedBlockHeader <:+: content
  · rw [index_eq_none_iff.mpr (notBoth occurs)]
    split
    · contradiction
    · rfl
  · rw [index_eq_none_iff.mpr occurs]

/-- The four arrangements of the first markers. -/
theorem marker_cases (content : Text) :
    cleaned content = none ∨
      (∃ before between after,
        content = before ++ (managedBlockHeader ++ (between ++ (managedBlockFooter ++ after))) ∧
          ¬ managedBlockHeader <:+: before ∧
            ¬ managedBlockFooter <:+: before ++ (managedBlockHeader ++ between)) ∨
      ∃ before between after,
        content = before ++ (managedBlockFooter ++ (between ++ (managedBlockHeader ++ after))) ∧
          ¬ managedBlockFooter <:+: before ∧
            ¬ managedBlockHeader <:+: before ++ (managedBlockFooter ++ between) := by
  cases header : index content managedBlockHeader with
  | none => exact .inl (by simp [cleaned, header])
  | some startIdx =>
      cases footer : index content managedBlockFooter with
      | none => exact .inl (by simp [cleaned, header, footer])
      | some endIdx =>
          rcases Nat.lt_trichotomy startIdx endIdx with order | same | order
          · obtain ⟨before, between, after, split, -, -, absent, absentSecond⟩ :=
              split_of_index_lt opens_header opens_footer header footer order
            exact .inr (.inl ⟨before, between, after, split, absent, absentSecond⟩)
          · subst same
            exact absurd footer (index_ne_of_apart apart_markers header)
          · obtain ⟨before, between, after, split, -, -, absent, absentSecond⟩ :=
              split_of_index_lt opens_footer opens_header footer header order
            exact .inr (.inr ⟨before, between, after, split, absent, absentSecond⟩)

/-! ## Regions -/

/-- A region from a header to a footer line. -/
def IsBlock (region : Text) : Prop :=
  managedBlockHeader <+: region ∧
    (managedBlockFooter <:+ region ∨ managedBlockFooter ++ [newline] <:+ region)

/-- At most one such region has been deleted. -/
def DeletesOneBlock (content rest : Text) : Prop :=
  ∃ before region after, content = before ++ (region ++ after) ∧ rest = before ++ after ∧
    (region = [] ∨ IsBlock region)

/-- The first header does not stand after the line of the first footer. -/
def InOrder (content : Text) : Prop :=
  ∀ startIdx endIdx, index content managedBlockHeader = some startIdx →
    index content managedBlockFooter = some endIdx → startIdx ≤ footerEnd content endIdx

/-- The pattern occurs at one place at most. -/
def AtMostOnce (pattern content : Text) : Prop :=
  ∀ before after before' after', content = before ++ (pattern ++ after) →
    content = before' ++ (pattern ++ after') → before = before'

/-- Neither marker occurs twice. -/
def AtMostOneBlock (content : Text) : Prop :=
  AtMostOnce managedBlockHeader content ∧ AtMostOnce managedBlockFooter content

/-- Deleting makes nothing longer. -/
theorem DeletesOneBlock.length_le {content rest : Text} (deletes : DeletesOneBlock content rest) :
    rest.length ≤ content.length := by
  obtain ⟨before, region, after, rfl, rfl, -⟩ := deletes
  simp only [List.length_append]
  omega

/-- Deleting nothing counts, too. -/
theorem DeletesOneBlock.refl (content : Text) : DeletesOneBlock content content :=
  ⟨[], [], content, rfl, rfl, .inl rfl⟩

/-- A text that is not cleaned has its markers in order. -/
theorem inOrder_of_none {content : Text} (missing : cleaned content = none) : InOrder content := by
  intro startIdx endIdx header footer
  simp [cleaned, header, footer] at missing

/-- A text whose first marker is a header has its markers in order. -/
theorem inOrder_of_header_first {before between : Text}
    (header : ¬ managedBlockHeader <:+: before)
    (footer : ¬ managedBlockFooter <:+: before ++ (managedBlockHeader ++ between)) (after : Text) :
    InOrder (before ++ (managedBlockHeader ++ (between ++ (managedBlockFooter ++ after)))) := by
  intro startIdx endIdx found foundFooter
  have first := index_append opens_header header (between ++ (managedBlockFooter ++ after))
  have second := index_append opens_footer footer after
  rw [List.append_assoc, List.append_assoc] at second
  obtain rfl := Option.some.inj (first.symm.trans found)
  obtain rfl := Option.some.inj (second.symm.trans foundFooter)
  simp only [footerEnd, List.length_append]
  split <;> omega

/-- With the footer first, nothing but the line end may stand between. -/
theorem inOrder_iff_of_footer_first {before between : Text}
    (footer : ¬ managedBlockFooter <:+: before)
    (header : ¬ managedBlockHeader <:+: before ++ (managedBlockFooter ++ between)) (after : Text) :
    InOrder (before ++ (managedBlockFooter ++ (between ++ (managedBlockHeader ++ after)))) ↔
      dropNewline between = [] := by
  have first := index_append opens_footer footer (between ++ (managedBlockHeader ++ after))
  have second := index_append opens_header header after
  rw [List.append_assoc, List.append_assoc] at second
  have rest := congrArg List.length
    (drop_footerEnd before (between ++ (managedBlockHeader ++ after)))
  rw [dropNewline_append_header] at rest
  simp only [List.length_drop, List.length_append] at rest
  have positive := opens_header.length_pos
  rw [← List.length_eq_zero_iff]
  constructor
  · intro inOrder
    have bound := inOrder _ _ second first
    simp only [List.length_append] at bound
    omega
  · intro nothing startIdx endIdx found foundFooter
    obtain rfl := Option.some.inj (first.symm.trans foundFooter)
    obtain rfl := Option.some.inj (second.symm.trans found)
    simp only [List.length_append]
    omega

/-- Out of order, bytes are duplicated. -/
theorem length_lt_of_not_inOrder {content : Text} (disorder : ¬ InOrder content) :
    content.length < (afterRemoval content).length := by
  rcases marker_cases content with
    missing | ⟨before, between, after, rfl, header, footer⟩ |
    ⟨before, between, after, rfl, footer, header⟩
  · exact absurd (inOrder_of_none missing) disorder
  · exact absurd (inOrder_of_header_first header footer after) disorder
  · rw [inOrder_iff_of_footer_first footer header, ← List.length_eq_zero_iff] at disorder
    rw [afterRemoval, cleaned_of_footer_first footer header]
    simp only [Option.getD_some, List.length_append]
    omega

/-- What is removed is a region from a header to a footer line exactly if the markers are
in order. -/
theorem deletesOneBlock_iff (content : Text) :
    DeletesOneBlock content (afterRemoval content) ↔ InOrder content := by
  constructor
  · intro deletes
    by_contra disorder
    have longer := length_lt_of_not_inOrder disorder
    have shorter := deletes.length_le
    omega
  · intro inOrder
    rcases marker_cases content with
      missing | ⟨before, between, after, rfl, header, footer⟩ |
      ⟨before, between, after, rfl, footer, header⟩
    · rw [afterRemoval, missing]
      exact .refl content
    · rw [afterRemoval, cleaned_of_header_first header footer]
      obtain ⟨line, split, isLine⟩ := dropNewline_append after
      refine ⟨before, managedBlockHeader ++ (between ++ (managedBlockFooter ++ line)),
        dropNewline after, ?_, rfl, .inr ⟨List.prefix_append _ _, ?_⟩⟩
      · simp only [List.append_assoc, ← split]
      · rw [← List.append_assoc, ← List.append_assoc, List.append_assoc _ managedBlockFooter]
        rcases isLine with rfl | rfl
        · rw [List.append_nil]
          exact .inl (List.suffix_append _ _)
        · exact .inr (List.suffix_append _ _)
    · have nothing := (inOrder_iff_of_footer_first footer header after).mp inOrder
      rw [afterRemoval, cleaned_of_footer_first footer header, nothing]
      exact .refl _

/-! ## Removing twice -/

/-- A pattern that occurs once does not occur later. -/
theorem AtMostOnce.not_later {sign : UInt8} {pattern before after : Text}
    (opens : Opens sign pattern) (once : AtMostOnce pattern (before ++ (pattern ++ after))) :
    ¬ pattern <:+: after := by
  rintro ⟨front, rest, rfl⟩
  have same := once before _ (before ++ (pattern ++ front)) rest rfl
    (by simp only [List.append_assoc])
  have lengths := congrArg List.length same
  have positive := opens.length_pos
  simp only [List.length_append] at lengths
  omega

/-- After a removal in order, a file that had one block at most has none. -/
theorem afterRemoval_twice_of_inOrder {content : Text} (once : AtMostOneBlock content)
    (inOrder : InOrder content) : afterRemoval (afterRemoval content) = afterRemoval content := by
  rcases marker_cases content with
    missing | ⟨before, between, after, rfl, header, footer⟩ |
    ⟨before, between, after, rfl, footer, header⟩
  · simp [afterRemoval, missing]
  · have removed : afterRemoval
        (before ++ (managedBlockHeader ++ (between ++ (managedBlockFooter ++ after)))) =
          before ++ dropNewline after := by
      rw [afterRemoval, cleaned_of_header_first header footer, Option.getD_some]
    rw [removed]
    obtain ⟨line, split, -⟩ := dropNewline_append after
    have suffix : dropNewline after <:+ after := ⟨line, split.symm⟩
    have headerLater : ¬ managedBlockHeader <:+: dropNewline after := by
      refine fun occurs => once.1.not_later opens_header ((occurs.trans suffix.isInfix).trans ?_)
      rw [← List.append_assoc]
      exact (List.suffix_append _ _).isInfix
    have footerLater : ¬ managedBlockFooter <:+: dropNewline after := by
      have onceFooter := once.2
      rw [← List.append_assoc managedBlockHeader, ← List.append_assoc before] at onceFooter
      exact fun occurs => onceFooter.not_later opens_footer (occurs.trans suffix.isInfix)
    have footerBefore : ¬ managedBlockFooter <:+: before := fun occurs =>
      footer (occurs.trans (List.prefix_append _ _).isInfix)
    have notBoth := opens_header.not_infix_append_of_infix opens_footer apart_markers
      ⟨header, headerLater⟩ ⟨footerBefore, footerLater⟩
    rw [afterRemoval, cleaned_eq_none notBoth, Option.getD_none]
  · have nothing := (inOrder_iff_of_footer_first footer header after).mp inOrder
    have removed : afterRemoval
        (before ++ (managedBlockFooter ++ (between ++ (managedBlockHeader ++ after)))) =
          before ++ (managedBlockFooter ++ (between ++ (managedBlockHeader ++ after))) := by
      rw [afterRemoval, cleaned_of_footer_first footer header, nothing]
      rfl
    rw [removed, removed]

/-- Markers that were out of order still are after a removal. -/
theorem not_inOrder_afterRemoval {content : Text} (disorder : ¬ InOrder content) :
    ¬ InOrder (afterRemoval content) := by
  rcases marker_cases content with
    missing | ⟨before, between, after, rfl, header, footer⟩ |
    ⟨before, between, after, rfl, footer, header⟩
  · exact absurd (inOrder_of_none missing) disorder
  · exact absurd (inOrder_of_header_first header footer after) disorder
  rw [inOrder_iff_of_footer_first footer header] at disorder
  rw [afterRemoval, cleaned_of_footer_first footer header, Option.getD_some]
  generalize shape : before ++ (managedBlockFooter ++ (between ++
    (dropNewline between ++ (managedBlockHeader ++ after)))) = rest
  intro inOrder
  obtain ⟨startIdx, -, foundHeader⟩ := @index_append_le _ _ managedBlockHeader
    (before ++ (managedBlockFooter ++ (between ++ dropNewline between))) after
  obtain ⟨endIdx, -, foundFooter⟩ := @index_append_le _ _ managedBlockFooter before
    (between ++ (dropNewline between ++ (managedBlockHeader ++ after)))
  rw [shape] at foundFooter
  rw [show (before ++ (managedBlockFooter ++ (between ++ dropNewline between))) ++
    (managedBlockHeader ++ after) = rest by rw [← shape]; simp only [List.append_assoc]]
    at foundHeader
  rcases marker_cases rest with
    missing | ⟨before', between', after', rfl, -, footer'⟩ |
    ⟨before', between', after', rfl, footer', header'⟩
  · simp [cleaned, foundHeader, foundFooter] at missing
  · -- The footer stands where it stood, and there was no header before it.
    rw [← List.append_assoc managedBlockHeader, ← List.append_assoc before'] at shape
    obtain ⟨rfl, -⟩ := append_inj_of_first opens_footer footer footer' shape
    exact header ((List.infix_append' _ _ _).trans (List.prefix_append _ _).isInfix)
  · obtain ⟨rfl, later⟩ := append_inj_of_first opens_footer footer footer' shape
    have nothing := (inOrder_iff_of_footer_first footer' header' after').mp inOrder
    have nonempty : between ≠ [] := by
      rintro rfl
      exact disorder rfl
    have dropped := congrArg dropNewline later
    rw [dropNewline_append_of_ne_nil nonempty, dropNewline_append_header, nothing,
      List.nil_append] at dropped
    refine opens_header.not_prefix_repeated disorder (fun occurs => header ?_) _ ⟨_, dropped.symm⟩
    obtain ⟨line, split, -⟩ := dropNewline_append between
    have suffix : dropNewline between <:+ between := ⟨line, split.symm⟩
    refine (occurs.trans suffix.isInfix).trans ?_
    rw [← List.append_assoc]
    exact (List.suffix_append _ _).isInfix

/-- Removing the block of a file that has one at most changes nothing a second time
exactly if the markers are in order. -/
theorem afterRemoval_twice_iff {content : Text} (once : AtMostOneBlock content) :
    afterRemoval (afterRemoval content) = afterRemoval content ↔ InOrder content := by
  refine ⟨fun same => ?_, afterRemoval_twice_of_inOrder once⟩
  by_contra disorder
  have longer := length_lt_of_not_inOrder (not_inOrder_afterRemoval disorder)
  rw [same] at longer
  omega

/-! ## A block between other text -/

section Block

variable (nameservers searchDomains : List Text)

/-- The block with its markers. -/
theorem managedBlock_eq :
    managedBlock nameservers searchDomains =
      managedBlockHeader ++ (newline :: (directives nameservers searchDomains ++
        (managedBlockFooter ++ [newline]))) := by
  simp [managedBlock, List.append_assoc]

/-- The first footer of a block is the one that ends it, unless the lines contain one. -/
theorem footer_infix_opening (before : Text) :
    managedBlockFooter <:+:
        before ++ (managedBlockHeader ++ (newline :: directives nameservers searchDomains)) ↔
      managedBlockFooter <:+: before ∨
        managedBlockFooter <:+: directives nameservers searchDomains := by
  rw [header_eq_cons, List.cons_append, opens_footer.infix_append_cons, ← List.cons_append,
    ← header_eq_cons, opens_footer.infix_pattern_append opens_header apart_markers.symm,
    ← List.singleton_append, opens_footer.infix_append_of_not_mem]
  exact fun member => sign_ne_newline (List.mem_singleton.mp member)

/-- Copies of a block that stand before it make no difference. -/
theorem append_replicate_comm {Item : Type} (part : List Item) (count : Nat) :
    (List.replicate count part).flatten ++ part = part ++ (List.replicate count part).flatten := by
  induction count with
  | zero => simp
  | succ count inductionHypothesis =>
      rw [List.replicate_succ, List.flatten_cons, List.append_assoc, inductionHypothesis]

variable {nameservers searchDomains}

/-- After unmarked text and any number of copies, a block is cut out. -/
theorem cleaned_of_copies {before : Text} (unmarked : Unmarked before)
    (plain : ¬ managedBlockFooter <:+: directives nameservers searchDomains) (count : Nat)
    (after : Text) :
    cleaned (before ++ ((List.replicate count (managedBlock nameservers searchDomains)).flatten ++
        (managedBlock nameservers searchDomains ++ after))) =
      some (before ++ ((List.replicate count
        (managedBlock nameservers searchDomains)).flatten ++ after)) := by
  have opening : ¬ managedBlockFooter <:+:
      before ++ (managedBlockHeader ++ (newline :: directives nameservers searchDomains)) := by
    rw [footer_infix_opening]
    exact not_or.mpr ⟨unmarked.footer, plain⟩
  have removed := cleaned_of_header_first unmarked.header opening
    (newline :: ((List.replicate count (managedBlock nameservers searchDomains)).flatten ++ after))
  rw [dropNewline_newline] at removed
  rw [← List.append_assoc (List.replicate count _).flatten, append_replicate_comm,
    List.append_assoc, ← removed]
  congr 2
  simp [managedBlock, List.append_assoc]

/-- There is no footer in a region before the one that ends it. -/
theorem footer_not_earlier {between line right region : Text} (front : Text)
    (isLine : line = [] ∨ line = [newline])
    (first : ¬ managedBlockFooter <:+: managedBlockHeader ++ between) (long : 2 ≤ right.length)
    (split : front ++ (managedBlockFooter ++ right) = region)
    (shape : managedBlockHeader ++ (between ++ (managedBlockFooter ++ line)) = region) : False := by
  have lengths := congrArg List.length (split.trans shape.symm)
  have lineLength : line.length ≤ 1 := by
    rcases isLine with rfl | rfl
    · exact Nat.zero_le _
    · exact Nat.le_refl _
  have ends := index_append opens_footer first line
  obtain ⟨position, bound, earlier⟩ := @index_append_le _ _ managedBlockFooter front right
  rw [List.append_assoc, shape, ← split] at ends
  obtain rfl := Option.some.inj (ends.symm.trans earlier)
  simp only [List.length_append] at lengths bound
  omega

/-- A region that can be moved over text in front of a block, with the first footer at its
end, is the block itself, and the text consists of copies of it. -/
theorem copies_of_moved {block between line : Text}
    (closed : managedBlockFooter ++ [newline] <:+ block) (isLine : line = [] ∨ line = [newline])
    (first : ¬ managedBlockFooter <:+: managedBlockHeader ++ between) (moved : Text)
    (same : moved ++ block =
      (managedBlockHeader ++ (between ++ (managedBlockFooter ++ line))) ++ moved) :
    managedBlockHeader ++ (between ++ (managedBlockFooter ++ line)) = block ∧
      ∃ count, moved = (List.replicate count block).flatten := by
  generalize shape : managedBlockHeader ++ (between ++ (managedBlockFooter ++ line)) = region
    at same ⊢
  have sameLength : block.length = region.length := by
    have lengths := congrArg List.length same
    simp only [List.length_append] at lengths
    omega
  have starts : region.head? = some sign := by
    rw [← shape, header_eq_cons]
    rfl
  induction size : moved.length using Nat.strongRecOn generalizing moved with
  | _ size inductionHypothesis =>
      rcases Nat.lt_or_ge moved.length region.length with short | long
      · cases moved with
        | nil => exact ⟨by simpa using same.symm, 0, rfl⟩
        | cons head rest =>
            exfalso
            obtain ⟨right, split⟩ := List.prefix_of_prefix_length_le
              ⟨block, same⟩ (List.prefix_append region _) (Nat.le_of_lt short)
            have long : 2 ≤ ([newline] ++ right).length := by
              rw [← split, List.length_append] at short
              rw [List.length_append, List.length_singleton]
              omega
            have isSign : head = sign := by
              rw [← split] at starts
              exact Option.some.inj starts
            have ends : block = right ++ (head :: rest) := by
              rw [← split, List.append_assoc] at same
              exact List.append_cancel_left same
            -- What is moved ends the block, so it holds the footer line or a part of it.
            rcases List.suffix_or_suffix_of_suffix closed ⟨right, ends.symm⟩ with
              ⟨front, holds⟩ | ⟨front, part⟩
            · refine footer_not_earlier front isLine first long ?_ shape
              rw [← List.append_assoc, ← List.append_assoc, List.append_assoc front, holds, split]
            · cases front with
              | nil =>
                  rw [List.nil_append] at part
                  refine footer_not_earlier [] isLine first long ?_ shape
                  rw [← split, part]
                  simp only [List.nil_append, List.append_assoc]
              | cons _ _ =>
                  have closes : Opens sign (managedBlockFooter ++ [newline]) := by decide
                  refine closes.not_mem_of_append (List.cons_ne_nil _ _) part.symm ?_
                  exact isSign ▸ List.mem_cons_self
      · have movedPrefix : region <+: moved :=
          List.prefix_of_prefix_length_le ⟨moved, same.symm⟩ (List.prefix_append _ _) long
        obtain ⟨rest, rfl⟩ := movedPrefix
        have positive : 0 < region.length := by
          rw [← shape]
          have := opens_header.length_pos
          simp only [List.length_append]
          omega
        rw [List.append_assoc] at same
        have smaller := List.append_cancel_left same
        rw [List.length_append] at size
        obtain ⟨isBlock, count, copies⟩ :=
          inductionHypothesis rest.length (by omega) rest smaller rfl
        refine ⟨isBlock, count + 1, ?_⟩
        rw [List.replicate_succ, List.flatten_cons, ← copies, isBlock]

/-- The block ends with its footer. -/
theorem closed_managedBlock :
    managedBlockFooter ++ [newline] <:+ managedBlock nameservers searchDomains := by
  rw [managedBlock, List.append_assoc _ managedBlockFooter]
  exact List.suffix_append _ _

/-- The lines of a block that is a region up to its first footer contain no footer. -/
theorem plain_of_region {between line : Text} (isLine : line = [] ∨ line = [newline])
    (first : ¬ managedBlockFooter <:+: managedBlockHeader ++ between)
    (isBlock : managedBlockHeader ++ (between ++ (managedBlockFooter ++ line)) =
      managedBlock nameservers searchDomains) :
    ¬ managedBlockFooter <:+: directives nameservers searchDomains := by
  rintro ⟨front, rest, lines⟩
  refine footer_not_earlier (managedBlockHeader ++ (newline :: front)) isLine first
    (show 2 ≤ (rest ++ (managedBlockFooter ++ [newline])).length from ?_) ?_ isBlock
  · have positive := opens_footer.length_pos
    simp only [List.length_append, List.length_singleton]
    omega
  · rw [managedBlock_eq, ← lines]
    simp only [List.append_assoc, List.cons_append]

/-- If the region that is cut out leaves what stands around a block, it is a copy of the
block, and only copies stand between the two. -/
theorem copies_of_cut {before after front between rest : Text}
    (header : ¬ managedBlockHeader <:+: front)
    (footer : ¬ managedBlockFooter <:+: front ++ (managedBlockHeader ++ between))
    (shape : before ++ (managedBlock nameservers searchDomains ++ after) =
      front ++ (managedBlockHeader ++ (between ++ (managedBlockFooter ++ rest))))
    (kept : front ++ dropNewline rest = before ++ after) :
    (¬ managedBlockFooter <:+: directives nameservers searchDomains) ∧
      ∃ front count, Unmarked front ∧
        before = front ++ (List.replicate count
          (managedBlock nameservers searchDomains)).flatten := by
  have bound : front.length ≤ before.length := by
    obtain ⟨startIdx, bound, found⟩ := @index_append_le _ _ managedBlockHeader before
      (newline :: (directives nameservers searchDomains ++ (managedBlockFooter ++ [newline])) ++
        after)
    rw [← List.append_assoc managedBlockHeader, ← managedBlock_eq, shape,
      index_append opens_header header] at found
    exact Option.some.inj found ▸ bound
  obtain ⟨moved, rfl⟩ := List.prefix_of_prefix_length_le ⟨_, shape.symm⟩ ⟨_, rfl⟩ bound
  rw [List.append_assoc] at shape kept
  have rejoined := List.append_cancel_left shape
  obtain ⟨line, split, isLine⟩ := dropNewline_append rest
  rw [split, List.append_cancel_left kept] at rejoined
  have same : moved ++ managedBlock nameservers searchDomains =
      (managedBlockHeader ++ (between ++ (managedBlockFooter ++ line))) ++ moved := by
    refine (List.append_left_inj after).mp ?_
    simpa only [List.append_assoc] using rejoined
  have first : ¬ managedBlockFooter <:+: managedBlockHeader ++ between := fun occurs =>
    footer (occurs.trans (List.suffix_append _ _).isInfix)
  obtain ⟨isBlock, count, copies⟩ :=
    copies_of_moved closed_managedBlock isLine first moved same
  refine ⟨plain_of_region isLine first isBlock, front, count, ⟨header, fun occurs => ?_⟩, ?_⟩
  · exact footer (occurs.trans (List.prefix_append _ _).isInfix)
  · rw [copies]

/-- A block between other text is cut out exactly if its lines contain no footer and what
stands before it is unmarked, but for copies of the block. -/
theorem cleaned_insert_iff (before after : Text) :
    cleaned (before ++ (managedBlock nameservers searchDomains ++ after)) =
        some (before ++ after) ↔
      (¬ managedBlockFooter <:+: directives nameservers searchDomains) ∧
        ∃ front count, Unmarked front ∧
          before = front ++ (List.replicate count
            (managedBlock nameservers searchDomains)).flatten := by
  constructor
  · intro removed
    generalize shape : before ++ (managedBlock nameservers searchDomains ++ after) = content
      at removed
    have positive := opens_header.length_pos
    have shorter : before.length + after.length < content.length := by
      rw [← shape, managedBlock_eq]
      simp only [List.length_append]
      omega
    rcases marker_cases content with
      missing | ⟨front, between, rest, rfl, header, footer⟩ |
      ⟨front, between, rest, rfl, footer, header⟩
    · rw [missing] at removed
      cases removed
    · rw [cleaned_of_header_first header footer] at removed
      exact copies_of_cut header footer shape (Option.some.inj removed)
    · rw [cleaned_of_footer_first footer header] at removed
      have lengths := congrArg List.length (Option.some.inj removed)
      simp only [List.length_append] at lengths shorter
      omega
  · rintro ⟨plain, front, count, unmarked, rfl⟩
    rw [List.append_assoc, cleaned_of_copies unmarked plain, List.append_assoc]

/-- The block is not empty. -/
theorem length_managedBlock_pos : 0 < (managedBlock nameservers searchDomains).length := by
  have positive := opens_header.length_pos
  rw [managedBlock_eq, List.length_append]
  omega

/-- When exactly removal gives back the text around a block. -/
theorem afterRemoval_insert_iff (before after : Text) :
    afterRemoval (before ++ (managedBlock nameservers searchDomains ++ after)) =
        before ++ after ↔
      (¬ managedBlockFooter <:+: directives nameservers searchDomains) ∧
        ∃ front count, Unmarked front ∧
          before = front ++ (List.replicate count
            (managedBlock nameservers searchDomains)).flatten := by
  rw [← cleaned_insert_iff, afterRemoval]
  cases removed : cleaned (before ++ (managedBlock nameservers searchDomains ++ after)) with
  | none =>
      rw [Option.getD_none]
      refine iff_of_false (fun same => ?_) (fun removed => nomatch removed)
      have lengths := congrArg List.length same
      have positive := @length_managedBlock_pos nameservers searchDomains
      simp only [List.length_append] at lengths
      omega
  | some rest => rw [Option.getD_some, Option.some.injEq]

end Block

/-- Of a file with a block between unmarked texts the block goes exactly if its lines contain
no footer. Of any file one block is deleted at most, and of a file with one block at most
nothing more the second time, exactly if the first header does not stand after the first
footer line. -/
theorem removal_exact (content : Text) :
    (∀ nameservers searchDomains before after, Unmarked before → Unmarked after →
        content = before ++ (managedBlock nameservers searchDomains ++ after) →
          (afterRemoval content = before ++ after ↔
            ¬ managedBlockFooter <:+: directives nameservers searchDomains)) ∧
      (DeletesOneBlock content (afterRemoval content) ↔ InOrder content) ∧
      (AtMostOneBlock content →
        (afterRemoval (afterRemoval content) = afterRemoval content ↔ InOrder content)) := by
  refine ⟨?_, deletesOneBlock_iff content, fun once => afterRemoval_twice_iff once⟩
  rintro nameservers searchDomains before after unmarked - rfl
  rw [afterRemoval_insert_iff]
  refine ⟨And.left, fun plain => ⟨plain, before, 0, unmarked, ?_⟩⟩
  rw [List.replicate_zero, List.flatten_nil, List.append_nil]

/-- A single block between other lines goes. -/
theorem removal_exact_single :
    afterRemoval (text "options rotate\n" ++
        (managedBlock [text "10.0.0.1"] [text "coder"] ++ text "nameserver 9.9.9.9\n")) =
      text "options rotate\n" ++ text "nameserver 9.9.9.9\n" :=
  ((removal_exact _).1 [text "10.0.0.1"] [text "coder"] (text "options rotate\n")
    (text "nameserver 9.9.9.9\n") ⟨by decide +kernel, by decide +kernel⟩
    ⟨by decide +kernel, by decide +kernel⟩ rfl).mpr (by decide +kernel)

/-- A footer line, another line and a header: that line is duplicated. -/
theorem not_deletesOneBlock :
    ¬ (∀ content, DeletesOneBlock content (afterRemoval content)) := by
  intro always
  have shorter := (always (managedBlockFooter ++ text "\nx\n" ++ managedBlockHeader)).length_le
  revert shorter
  decide +kernel

end CoderDesktop.Dns
