import CompactQuery.Command.FileTree
import Mathlib.Data.List.DropRight
import Mathlib.Data.List.TakeDrop

/-!
# Naming — what the text of a path says

A path is compared and taken apart piece by piece, while a reader sees its text. Two things are
decided by pieces: whether a path is the same as a dash, and which extension it has. For the path of
a file both can be read off the text, since such a path ends in the name of the file: one that ends
in a slash, or in a piece of dots alone, leads to a folder or nowhere.

* **`Trail`** — what can follow a name and changes nothing; **`Path.same_dash_iff`** — a path is the
  same as a dash if nothing else follows the dash in its text.
* **`Path.name`** — what stands behind the last slash; **`Path.NamesFile`** — it can be a file's.
* **`Path.NamesFile.extension?_eq_some_iff`** — a file has the extension that its path ends in,
  unless its name is nothing else.
* **`FileTree.namesFile_of_read`** — the path of a file in a tree ends in its name.
-/

namespace CompactQuery

theorem pieces_of_notMem {separator : Char} {text : List Char} (h : separator ∉ text) :
    pieces separator text = [text] := by
  induction text with
  | nil => rfl
  | cons c text ih =>
      rw [List.mem_cons, not_or] at h
      rw [pieces, if_neg (Ne.symm h.1), ih h.2]

/-- The first piece is the whole text, or all that is in front of the first separator. -/
theorem pieces_eq_cons {separator : Char} {text piece : List Char} {others : List (List Char)}
    (h : pieces separator text = piece :: others) :
    separator ∉ piece ∧ ((text = piece ∧ others = []) ∨
      ∃ rest, text = piece ++ separator :: rest ∧ pieces separator rest = others) := by
  induction text generalizing piece with
  | nil =>
      cases h
      exact ⟨List.not_mem_nil, .inl ⟨rfl, rfl⟩⟩
  | cons c text ih =>
      by_cases hc : c = separator
      · subst hc
        rw [pieces, if_pos rfl] at h
        cases h
        exact ⟨List.not_mem_nil, .inr ⟨text, rfl, rfl⟩⟩
      · -- the character goes to the first piece of what follows
        obtain ⟨first, more, hfirst⟩ := List.exists_cons_of_ne_nil (pieces_ne_nil separator text)
        rw [pieces, if_neg hc, hfirst] at h
        cases h
        obtain ⟨hnotMem, htext⟩ := ih hfirst
        refine ⟨?_, ?_⟩
        · rw [List.mem_cons, not_or]
          exact ⟨Ne.symm hc, hnotMem⟩
        · rcases htext with ⟨rfl, rfl⟩ | ⟨rest, rfl, hrest⟩
          · exact .inl ⟨rfl, rfl⟩
          · exact .inr ⟨rest, rfl, hrest⟩

namespace Command

/-! ## Trails -/

/-- Slashes, each with or without a single dot behind it. -/
inductive Trail : List Char → Prop where
  | nil : Trail []
  | slash {rest : List Char} (h : Trail rest) : Trail ('/' :: rest)
  | dot {rest : List Char} (h : Trail rest) : Trail ('/' :: '.' :: rest)

theorem Trail.eq_nil_or {text : List Char} (h : Trail text) :
    text = [] ∨ ∃ rest, text = '/' :: rest := by
  cases h with
  | nil => exact .inl rfl
  | slash | dot => exact .inr ⟨_, rfl⟩

theorem Trail.counts_eq_false {text : List Char} (h : Trail text) :
    ∀ rest, text = '/' :: rest → ∀ piece ∈ pieces '/' rest, Path.counts piece = false := by
  -- behind a slash, and perhaps a dot, the text ends or the next slash stands
  have hnext (before : List Char) {rest : List Char} (hslash : '/' ∉ before)
      (hbefore : Path.counts before = false) (hrest : Trail rest)
      (ih : ∀ tail, rest = '/' :: tail → ∀ piece ∈ pieces '/' tail, Path.counts piece = false) :
      ∀ piece ∈ pieces '/' (before ++ rest), Path.counts piece = false := by
    rcases hrest.eq_nil_or with rfl | ⟨tail, rfl⟩
    · rw [List.append_nil, pieces_of_notMem hslash, List.forall_mem_singleton]
      exact hbefore
    · rw [pieces_append, pieces_of_notMem hslash, List.singleton_append, List.forall_mem_cons]
      exact ⟨hbefore, ih tail rfl⟩
  induction h with
  | nil => exact fun _ h => nomatch h
  | slash hrest ih =>
      rintro _ ⟨⟩
      exact hnext [] (by decide) (by decide) hrest ih
  | dot hrest ih =>
      rintro _ ⟨⟩
      exact hnext ['.'] (by decide) (by decide) hrest ih

/-- Where no piece behind a slash counts, there is a trail. -/
theorem trail_of_counts_eq_false (text : List Char)
    (h : ∀ piece ∈ pieces '/' text, Path.counts piece = false) : Trail ('/' :: text) := by
  obtain ⟨piece, others, hpieces⟩ := List.exists_cons_of_ne_nil (pieces_ne_nil '/' text)
  rw [hpieces, List.forall_mem_cons] at h
  have hpiece : piece = [] ∨ piece = ['.'] := by
    have hcounts := h.1
    simp only [Path.counts, Bool.and_eq_false_iff, decide_eq_false_iff_not, not_not] at hcounts
    exact hcounts
  have hrest : ∃ rest, text = piece ++ rest ∧ Trail rest := by
    rcases (pieces_eq_cons hpieces).2 with ⟨htext, -⟩ | ⟨rest, htext, hothers⟩
    · exact ⟨[], by rw [htext, List.append_nil], .nil⟩
    · exact ⟨'/' :: rest, htext, trail_of_counts_eq_false rest (hothers ▸ h.2)⟩
  obtain ⟨rest, rfl, hrest⟩ := hrest
  rcases hpiece with rfl | rfl
  · exact .slash hrest
  · exact .dot hrest
termination_by text.length
decreasing_by
  rw [htext, List.length_append, List.length_cons]
  omega

namespace Path

/-- The text is a dash, with a trail behind it at most. -/
def IsDash (path : Path) : Prop := ∃ trail, path.text.toList = '-' :: trail ∧ Trail trail

/-- The same as a dash is a path whose first piece is one, if no other piece counts. -/
theorem same_dash_iff_pieces {path : Path} {piece : List Char} {others : List (List Char)}
    (h : path.pieces = piece :: others) :
    path.same ⟨"-"⟩ ↔ piece = ['-'] ∧ ∀ other ∈ others, counts other = false := by
  have hdash : parts ⟨"-"⟩ = [['-']] := by decide
  have hrelative : isAbsolute ⟨"-"⟩ = false := by decide
  rw [same, hdash, hrelative, Bool.and_eq_true, decide_eq_true_iff, decide_eq_true_iff]
  obtain ⟨hslash, htext⟩ := pieces_eq_cons h
  cases piece with
  | nil =>
      -- the path is empty, or it starts at the root
      refine ⟨?_, fun h => nomatch h.1⟩
      rintro ⟨habsolute, hparts⟩
      rcases htext with ⟨htext, rfl⟩ | ⟨rest, htext, -⟩
      · rw [parts, h] at hparts
        exact nomatch hparts
      · rw [isAbsolute, htext] at habsolute
        exact nomatch habsolute
  | cons c piece =>
      have hhead : path.text.toList.head? = some c := by
        rcases htext with ⟨htext, -⟩ | ⟨rest, htext, -⟩ <;> rw [htext] <;> rfl
      have hc : c ≠ '/' := fun hc => hslash (hc ▸ List.mem_cons_self)
      have hparts : path.parts = (c :: piece) :: others.filter counts := by rw [parts, h]
      simp only [isAbsolute, hhead, hparts, List.cons.injEq, List.filter_eq_nil_iff,
        Option.some.injEq, hc, decide_false, true_and, Bool.not_eq_true]

/-- **A path is the same as a dash just if its text is one, trails apart.** -/
theorem same_dash_iff {path : Path} : path.same ⟨"-"⟩ ↔ path.IsDash := by
  obtain ⟨piece, others, hpieces⟩ := List.exists_cons_of_ne_nil (pieces_ne_nil '/' path.text.toList)
  rw [same_dash_iff_pieces hpieces]
  constructor
  · rintro ⟨rfl, hothers⟩
    rcases (pieces_eq_cons hpieces).2 with ⟨htext, -⟩ | ⟨rest, htext, rfl⟩
    · exact ⟨[], htext, .nil⟩
    · exact ⟨'/' :: rest, htext, trail_of_counts_eq_false rest hothers⟩
  · rintro ⟨trail, htext, htrail⟩
    rw [htext] at hpieces
    rcases htrail.eq_nil_or with rfl | ⟨rest, rfl⟩
    · cases hpieces
      exact ⟨rfl, nofun⟩
    · have hsplit : CompactQuery.pieces '/' ('-' :: '/' :: rest)
          = ['-'] :: CompactQuery.pieces '/' rest := pieces_append '/' ['-'] rest
      rw [hsplit] at hpieces
      cases hpieces
      exact ⟨rfl, htrail.counts_eq_false rest rfl⟩

/-! ## Names of files -/

/-- What stands behind the last slash. -/
def name (path : Path) : List Char := path.text.toList.rtakeWhile (· ≠ '/')

/-- What stands behind the last slash can be the name of a file. -/
def NamesFile (path : Path) : Prop :=
  path.name ≠ [] ∧ path.name ≠ ['.'] ∧ path.name ≠ ['.', '.']

theorem slash_notMem_name (path : Path) : '/' ∉ path.name := by
  intro h
  exact absurd (List.mem_rtakeWhile_imp h) (by decide)

theorem eq_name_or (path : Path) :
    path.text.toList = path.name ∨ ∃ folder, path.text.toList = folder ++ '/' :: path.name := by
  have htext := List.rdropWhile_append_rtakeWhile (p := (· ≠ '/')) (l := path.text.toList)
  by_cases hnil : path.text.toList.rdropWhile (· ≠ '/') = []
  · rw [hnil, List.nil_append] at htext
    exact .inl htext.symm
  · -- what is not taken ends in a slash
    have hlast := List.rdropWhile_last_not _ _ hnil
    rw [decide_eq_true_iff, not_not] at hlast
    have hfolder := List.dropLast_append_getLast hnil
    rw [hlast] at hfolder
    refine .inr ⟨(path.text.toList.rdropWhile (· ≠ '/')).dropLast, ?_⟩
    rw [← hfolder, List.append_assoc] at htext
    exact htext.symm

theorem getLast?_pieces (path : Path) : path.pieces.getLast? = some path.name := by
  have hname := pieces_of_notMem path.slash_notMem_name
  rcases path.eq_name_or with h | ⟨folder, h⟩
  · rw [pieces, h, hname]
    rfl
  · rw [pieces, h, pieces_append, hname, List.getLast?_concat]

theorem NamesFile.fileName?_eq {path : Path} (h : path.NamesFile) :
    path.fileName? = some path.name := by
  obtain ⟨hnil, hdot, hdots⟩ := h
  have hcounts : counts path.name = true := by simp [counts, hnil, hdot]
  have hlast : path.parts.getLast? = some path.name := by
    obtain ⟨before, hpieces⟩ := List.getLast?_eq_some_iff.mp path.getLast?_pieces
    cases before with
    | nil =>
        obtain ⟨c, rest, hname⟩ := List.exists_cons_of_ne_nil hnil
        rw [hname] at hpieces ⊢
        rw [parts, hpieces]
        rfl
    | cons first others =>
        -- whatever is dropped in front of it, the name stays
        have hfilter : (others ++ [path.name]).filter counts
            = others.filter counts ++ [path.name] := by
          rw [List.filter_append, List.filter_singleton, hcounts, cond_true]
        rw [parts, hpieces, List.cons_append]
        cases first with
        | nil =>
            change ((others ++ [path.name]).filter counts).getLast? = _
            rw [hfilter, List.getLast?_concat]
        | cons c first =>
            change ((c :: first) :: (others ++ [path.name]).filter counts).getLast? = _
            rw [hfilter, ← List.cons_append, List.getLast?_concat]
  rw [fileName?, hlast, Option.filter_some_pos]
  simp [hdot, hdots]

theorem afterDot?_eq_some_iff {name extension : List Char} :
    afterDot? name = some extension ↔
      '.' ∉ extension ∧ ∃ stem ≠ [], name = stem ++ '.' :: extension := by
  rw [afterDot?, List.span_eq_takeWhile_dropWhile]
  constructor
  · intro h
    have hname := List.takeWhile_append_dropWhile (p := (· ≠ '.')) (l := name.reverse)
    split at h
    · exact nomatch h
    · exact nomatch h
    · rename_i taken rest hnone hone hspan
      obtain ⟨htaken, hrest⟩ := Prod.mk.inj hspan
      rw [htaken, hrest] at hname
      cases h
      -- what is left of the name starts with a dot, and that is not all of it
      match rest, hnone, hone, hrest, hname with
      | [], hnone, _, _, _ => exact (hnone rfl).elim
      | [c], _, hone, _, _ => exact (hone c rfl).elim
      | c :: d :: more, _, _, hrest, hname =>
          have hc := List.head?_dropWhile_not (· ≠ '.') name.reverse
          rw [hrest, List.head?_cons] at hc
          have hdot : c = '.' := by simpa using hc
          subst hdot
          refine ⟨?_, (d :: more).reverse, by simp, ?_⟩
          · rw [List.mem_reverse, ← htaken]
            intro hmem
            exact absurd (List.mem_takeWhile_imp hmem) (by decide)
          · rw [List.reverse_eq_iff.mp hname.symm]
            simp
  · rintro ⟨hdot, stem, hstem, rfl⟩
    have hfree : ∀ c ∈ extension.reverse, decide (c ≠ '.') := by
      intro c hc
      exact decide_eq_true fun h => hdot (h ▸ List.mem_reverse.mp hc)
    have hreverse : (stem ++ '.' :: extension).reverse
        = extension.reverse ++ '.' :: stem.reverse := by
      simp
    obtain ⟨c, rest, hrest⟩ := List.exists_cons_of_ne_nil (mt List.reverse_eq_nil_iff.mp hstem)
    rw [hreverse, List.takeWhile_append_of_pos hfree, List.dropWhile_append_of_pos hfree, hrest]
    simp

theorem rtakeWhile_append_of_pos {α : Type} {p : α → Bool} {after : List α}
    (h : ∀ a ∈ after, p a) (before : List α) :
    (before ++ after).rtakeWhile p = before.rtakeWhile p ++ after := by
  have hreverse : ∀ a ∈ after.reverse, p a := fun a ha => h a (List.mem_reverse.mp ha)
  rw [List.rtakeWhile, List.reverse_append, List.takeWhile_append_of_pos hreverse,
    List.reverse_append, List.reverse_reverse, List.rtakeWhile]

/-- **A file has the extension that its path ends in**, behind a dot that does not start its name. -/
theorem NamesFile.extension?_eq_some_iff {path : Path} (h : path.NamesFile) {extension : List Char}
    (hdot : '.' ∉ extension) (hslash : '/' ∉ extension) :
    path.extension? = some extension ↔
      '.' :: extension <:+ path.text.toList ∧ path.name ≠ '.' :: extension := by
  rw [extension?, h.fileName?_eq, Option.bind_some, afterDot?_eq_some_iff]
  constructor
  · rintro ⟨-, stem, hstem, hname⟩
    have hsuffix : path.name <:+ path.text.toList := List.rtakeWhile_suffix _ _
    refine ⟨(hname ▸ List.suffix_append stem _).trans hsuffix, ?_⟩
    intro hbare
    rw [hbare] at hname
    exact hstem (List.self_eq_append_left.mp hname)
  · rintro ⟨⟨before, htext⟩, hbare⟩
    -- no slash is in the extension, so the name reaches further back
    have hname : path.name = before.rtakeWhile (· ≠ '/') ++ '.' :: extension := by
      rw [name, ← htext]
      apply rtakeWhile_append_of_pos
      rw [List.forall_mem_cons]
      refine ⟨by decide, ?_⟩
      rintro c hc
      exact decide_eq_true fun h => hslash (h ▸ hc)
    refine ⟨hdot, _, ?_, hname⟩
    intro hnil
    rw [hnil, List.nil_append] at hname
    exact hbare hname

end Path

/-! ## Files in a tree -/

namespace FileTree

/-- A walk that ends at a file ends in its name. Induction on the pieces: what lies above a place is
folders, so neither staying there nor going back leads to a file. -/
theorem getLast?_of_walk {here : FileTree} {above : List FileTree} {pieces : List (List Char)}
    {content : ByteArray} (habove : ∀ tree ∈ above, ∃ entries, tree = .folder entries)
    (h : walk here above pieces = .ok (.file content)) {last : List Char}
    (hlast : pieces.getLast? = some last) : last ≠ [] ∧ last ≠ ['.'] ∧ last ≠ ['.', '.'] := by
  induction pieces generalizing here above with
  | nil => exact nomatch hlast
  | cons piece pieces ih =>
      cases here with
      | file content => exact nomatch h
      | folder entries =>
          -- a piece with more behind it is not the last
          have hstep {there : FileTree} {folders : List FileTree}
              (hfolders : ∀ tree ∈ folders, ∃ entries, tree = .folder entries)
              (hwalk : walk there folders pieces = .ok (.file content))
              (hend : pieces = [] → piece ≠ [] ∧ piece ≠ ['.'] ∧ piece ≠ ['.', '.']) :
              last ≠ [] ∧ last ≠ ['.'] ∧ last ≠ ['.', '.'] := by
            cases pieces with
            | nil =>
                cases hlast
                exact hend rfl
            | cons next others => exact ih hfolders hwalk hlast
          have hfolder {there : FileTree} {folders : List FileTree}
              (hthere : ∃ entries, there = .folder entries)
              (hwalk : walk there folders pieces = .ok (.file content)) (hnil : pieces = []) :
              piece ≠ [] ∧ piece ≠ ['.'] ∧ piece ≠ ['.', '.'] := by
            obtain ⟨entries, rfl⟩ := hthere
            subst hnil
            exact nomatch hwalk
          simp only [walk] at h
          split at h
          · exact hstep habove h (hfolder ⟨entries, rfl⟩ h)
          · rename_i hstay
            rw [not_or] at hstay
            split at h
            · split at h
              · exact hstep (by simp) h (hfolder ⟨entries, rfl⟩ h)
              · rw [List.forall_mem_cons] at habove
                exact hstep habove.2 h (hfolder habove.1 h)
            · rename_i hback
              split at h
              · exact nomatch h
              · split at h
                · exact nomatch h
                · refine hstep ?_ h fun _ => ⟨hstay.1, hstay.2, hback⟩
                  rw [List.forall_mem_cons]
                  exact ⟨⟨entries, rfl⟩, habove⟩

/-- **The path of a file ends in its name.** -/
theorem namesFile_of_read {tree : FileTree} {folder : List String} {path : Path}
    {content : ByteArray} (h : tree.read folder path = .ok content) : path.NamesFile := by
  rw [read] at h
  split at h
  · exact nomatch h
  · split at h
    · exact nomatch h
    · split at h
      · rename_i hwalk
        have hlast : ((if path.isAbsolute then [] else folder.map String.toList)
            ++ path.pieces).getLast? = some path.name := by
          rw [List.getLast?_append, path.getLast?_pieces, Option.some_or]
        exact getLast?_of_walk (by simp) hwalk hlast
      · exact nomatch h
      · exact nomatch h

end FileTree

end Command

end CompactQuery
