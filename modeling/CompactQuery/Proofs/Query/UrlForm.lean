import CompactQuery.Proofs.Text.Parting
import CompactQuery.Query.Segment

/-!
# URL form — the compact form on its way through a URL

A URL may come back with its escapes rewritten: another case, more characters escaped, fewer. As
long as it is an encoded form of the same text, decoding gives that text, so the URL form of a query
carries its compact form, whatever the stored texts hold.

* **`head?_compact`**, **`head?_urlForm`** — both forms start with the sigil of the table.
* **`every_spelling_decodes`** — decoding inverts every form, the one that is written included.
* **`decodes_piecewise`** — decoding can be put off until after the text is cut into its segments.
-/

namespace CompactQuery.Query

/-- The compact form starts with the sigil of the table. -/
theorem head?_compact (query : Query) : query.compact.toList.head? = some '@' := by
  obtain ⟨rest, hsegments⟩ : ∃ rest, query.segments = ⟨.table, query.table⟩ :: rest := ⟨_, rfl⟩
  rw [compact, hsegments, List.map_cons]
  cases rest <;> simp [Segment.text, SegmentKind.sigil]

/-- The sigil stands for itself in a URL. -/
theorem head?_urlForm (query : Query) : query.urlForm.toList.head? = some '@' := by
  obtain ⟨rest, hcompact⟩ := List.head?_eq_some_iff.mp query.head?_compact
  have hsigil : Percent.encodeChar '@' = ['@'] := by decide
  rw [urlForm, Percent.toList_encode, hcompact, List.flatMap_cons, hsigil, List.singleton_append,
    List.head?_cons]

/-- What is rendered for a URL decodes to what is rendered plainly. -/
theorem decode_render (query : Query) : Percent.decode (query.render true) = query.render false :=
  Percent.decode_encode query.compact

/-- **Decoding inverts every percent-encoding.** Each form of a text decodes to it, and `encode`
writes such a form; so encoding loses nothing, and the URL form of any query decodes to its compact
form. -/
theorem every_spelling_decodes :
    (∀ text spelled : String, Percent.Spelling text.toList spelled.toList →
      Percent.decode spelled = text) ∧
    (∀ text : String, Percent.Spelling text.toList (Percent.encode text).toList ∧
      Percent.decode (Percent.encode text) = text) ∧
    Function.Injective Percent.encode ∧
    ∀ query : Query, Percent.decode (query.render true) = query.render false := by
  refine ⟨fun text spelled h => h.decode, ?_, ?_, decode_render⟩
  · intro text
    exact ⟨Percent.spelling_encode text, Percent.decode_encode text⟩
  · intro text other h
    rw [← Percent.decode_encode text, h, Percent.decode_encode]

/-- An escape in mixed case between literal characters, a digit right behind an escaped percent
sign, and a letter that need not have been escaped. -/
theorem decode_mixedSpelling :
    Percent.Spelling "é%7|a".toList "%c3%A9%257|%61".toList ∧
      Percent.decode "%c3%A9%257|%61" = "é%7|a" := by
  have haccent : Percent.Escaped (String.utf8EncodeChar 'é') "%c3%A9".toList :=
    .cons (by decide) (by decide) (.cons (by decide) (by decide) .nil)
  have hpercent : Percent.Escaped (String.utf8EncodeChar '%') "%25".toList :=
    .cons (by decide) (by decide) .nil
  have hletter : Percent.Escaped (String.utf8EncodeChar 'a') "%61".toList :=
    .cons (by decide) (by decide) .nil
  have hspelling : Percent.Spelling "é%7|a".toList "%c3%A9%257|%61".toList :=
    .escaped haccent (.escaped hpercent (.literal (by decide) (.literal (by decide)
      (.escaped hletter .nil))))
  exact ⟨hspelling, every_spelling_decodes.1 _ _ hspelling⟩

/-! ## Segments of the URL form -/

/-- **Cutting and decoding commute.** Any texts at all, with a character between them that can be
part of no escape, are decoded on their own: two of them, or any number with the separator of
segments between them. And between these separators the URL form of a query has the encoded pieces
of its compact form, one for one, so they may be decoded after cutting. -/
theorem decodes_piecewise :
    (∀ (c : Char) (before after : String), c ≠ '%' → c ∉ "0123456789abcdefABCDEF".toList →
      Percent.decode (before ++ c.toString ++ after)
        = Percent.decode before ++ c.toString ++ Percent.decode after) ∧
    (∀ texts : List String, Percent.decode (segmentSeparator.intercalate texts)
      = segmentSeparator.intercalate (texts.map Percent.decode)) ∧
    ∀ query : Query,
      (query.render true).toList.splitOn '~'
          = ((query.render false).toList.splitOn '~').map
              (fun piece => (Percent.encode (String.ofList piece)).toList) ∧
        ((query.render true).toList.splitOn '~').map
            (fun piece => Percent.decode (String.ofList piece))
          = ((query.render false).toList.splitOn '~').map String.ofList := by
  have htilde : '~' ∉ Digit.all := by decide
  refine ⟨?_, ?_, ?_⟩
  · intro c before after hc hdigit
    exact Percent.decode_append hc hdigit before after
  · intro texts
    exact Percent.decode_intercalate (by decide : '~' ≠ '%') htilde texts
  · intro query
    have hpieces := Percent.splitOn_encode (by decide : Percent.kept '~') htilde query.compact
    refine ⟨hpieces, ?_⟩
    have hcut : (query.render true).toList.splitOn '~' = _ := hpieces
    rw [hcut, List.map_map]
    refine List.map_congr_left fun piece _ => ?_
    simp only [Function.comp_apply, String.ofList_toList, Percent.decode_encode]

/-- A character that is cut short before the separator, the octet that would have gone on with it
behind, and at the end an escape that is cut short as well. -/
theorem decodes_piecewise_cutShort :
    'é' ≠ '%' ∧ 'é' ∉ "0123456789abcdefABCDEF".toList ∧
      Percent.decode ("%E2%82" ++ 'é'.toString ++ "%AC%4")
        = "\uFFFD" ++ 'é'.toString ++ "\uFFFD%4" := by
  have hbefore : Percent.decode "%E2%82" = "\uFFFD" := by decide +kernel
  have hafter : Percent.decode "%AC%4" = "\uFFFD%4" := by decide +kernel
  have hsign : 'é' ≠ '%' := by decide
  have hdigit : 'é' ∉ "0123456789abcdefABCDEF".toList := by decide
  refine ⟨hsign, hdigit, ?_⟩
  rw [decodes_piecewise.1 'é' _ _ hsign hdigit, hbefore, hafter]

end CompactQuery.Query
