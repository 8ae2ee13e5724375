import Mustache.Proofs.Token.Layout
import Mustache.Token.Source

/-! # Where tokens in store end
A queue hands out the tokens in store and then, again and again, the end of the input
(`TokenQueue.take_ofTokens`). It places this end by the last token alone, on the line on which that
token begins. A token of a scan stands at one place of the template only
(`Token.StandsBehind.unique`), so the place behind it is known, and the queue meets it exactly if no
line feed stands in the token (`TokenQueue.take_ofTokens_span`). Names and signs have no line feed,
and the delimiters have one only if they had it from the start
(`Scanner.kind_eq_text_of_newline`). -/

namespace Mustache

open Text

/-! ## The place of a token -/

namespace Token

variable {t : Token} {source before before' : List Char}

/-- **A token stands behind this text** of the source: its own text follows, and its place is the
one that is counted from the text before it. -/
def StandsBehind (t : Token) (source before : List Char) : Prop :=
  before ++ t.text.toList <+: source ∧ t.pos = Position.behind before

/-- A token stands at one place only. -/
theorem StandsBehind.unique (h : t.StandsBehind source before)
    (h' : t.StandsBehind source before') : before = before' := by
  have hprefix := (List.prefix_append before _).trans h.1
  have hprefix' := (List.prefix_append before' _).trans h'.1
  exact Position.eq_of_behind_eq hprefix hprefix' (h.2.symm.trans h'.2)

/-- **The place behind a token** is that of the token, moved on by its text. -/
theorem StandsBehind.behind_eq (h : t.StandsBehind source before) :
    Position.behind (before ++ t.text.toList) = t.pos.after t.text.toList := by
  rw [Position.behind_append, h.2]

end Token

/-! ## Line feeds in tokens -/

/-- No line feed stands in the delimiters. -/
def Delimiters.OneLine (d : Delimiters) : Prop := '\n' ∉ d.opening ∧ '\n' ∉ d.closing

/-- The two fields of a tag that changes the delimiters have no line feed: it would part them. -/
theorem Delimiters.oneLine_of_fieldPair {d : Delimiters} {body : List Char}
    (h : FieldPair Unicode.isBlank body d.opening d.closing) : d.OneLine := by
  have hblank : Unicode.isBlank '\n' = true := by decide
  refine ⟨fun hmem => ?_, fun hmem => ?_⟩
  · exact absurd hblank (by simp [h.not_sep_first _ hmem])
  · exact absurd hblank (by simp [h.not_sep_second _ hmem])

namespace Scanner

variable {s s' : Scanner} {t : Token}

/-- Delimiters without line feeds are followed by such delimiters. -/
theorem oneLine_of_move {o : Option Token} (hm : Move s o s') (hs' : s'.isFinished = false)
    (h : s.delims.OneLine) : s'.delims.OneLine := by
  cases o with
  | some t =>
    obtain ⟨-, -, -, hdelims, -⟩ := piece_of_move_some hm hs'
    rwa [hdelims]
  | none =>
    cases hm with
    | change hr hc =>
      obtain ⟨-, -, hfields⟩ := Delimiters.readChange_eq_ok_iff.1 hc
      exact Delimiters.oneLine_of_fieldPair hfields
    | blank => exact h

/-- A token with a line feed is a text, if the delimiters have none. -/
theorem kind_eq_text_of_move (hm : Move s (some t) s') (ht : t.isTerminal = false)
    (hd : s.delims.OneLine) (hn : '\n' ∈ t.text.toList) : t.kind = .text := by
  cases hm with
  | lastText | textBefore | commentBody => rfl
  | openTag => exact absurd (by simpa [delims] using hn) hd.1
  | close | closing => exact absurd (by simpa [delims] using hn) hd.2
  | rawEnd =>
    have hbrace : '\n' ∉ "\x7d".toList := by decide
    exact absurd hn hbrace
  | commentSign _ hc | sign _ hc _ =>
    have hblank := isTagBlank_eq_false (by rw [hc]; rfl)
    exact absurd (by simpa using hn) (ne_newline hblank).symm
  | name hgo hc =>
    have hname := (Layout.isName_of_cutName hgo hc).noBlank '\n' (by simpa using hn)
    exact absurd rfl hname.2.2.2
  | finished =>
    rw [Terminal.isTerminal] at ht
    cases ht
  | _ => cases ht

/-- **Line feeds stand in texts**, and in no other token of a scan under delimiters without line
feeds. -/
theorem kind_eq_text_of_newline (hs : s.delims.OneLine) (hmem : t ∈ s.tokens)
    (ht : t.isTerminal = false) (hn : '\n' ∈ t.text.toList) : t.kind = .text := by
  induction s using induction_on_moves with
  | finished last =>
    rw [tokens_finished, List.mem_singleton] at hmem
    rw [hmem, last.isTerminal] at ht
    cases ht
  | move s o s' _ hm ih =>
    cases o with
    | none =>
      obtain ⟨-, -, -, -, -, hs'⟩ := piece_of_move_none hm
      rw [tokens_of_move_none hm] at hmem
      exact ih (oneLine_of_move hm hs' hs) hmem
    | some u =>
      cases hu : u.isTerminal with
      | true =>
        rw [tokens_of_move_terminal hm hu, List.mem_singleton] at hmem
        rw [hmem, hu] at ht
        cases ht
      | false =>
        rw [tokens_of_move_some hm hu] at hmem
        rcases List.mem_cons.1 hmem with rfl | hmem
        · exact kind_eq_text_of_move hm hu hs hn
        · have hs' : s'.isFinished = false := (isTerminal_of_move hm).symm.trans hu
          exact ih (oneLine_of_move hm hs' hs) hmem

/-- Every token before the end of a scan stands somewhere in the source. -/
theorem exists_standsBehind {source consumed : List Char} (hf : s.isFinished = false)
    (hs : s.StandsBehind source consumed) (hmem : t ∈ s.tokens) (ht : t.isTerminal = false) :
    ∃ before, t.StandsBehind source before := by
  obtain ⟨tiles, htiles⟩ := exists_tilesOf s hf hs
  have hkind : t.kind ≠ .error := by
    intro hk
    rw [Token.isTerminal, hk] at ht
    cases ht
  have hfilter : t ∈ tiles.map Tile.token := by
    rw [htiles.tokens]
    exact List.mem_filter.2 ⟨hmem, by simpa using hkind⟩
  obtain ⟨tile, htile, rfl⟩ := List.mem_map.1 hfilter
  obtain ⟨before, behind, hsource, -, -, hpos⟩ := htiles.fits tile htile
  exact ⟨before, ⟨behind, hsource.symm⟩, hpos⟩

end Scanner

/-! ## Tokens in store -/

namespace TokenQueue

/-- A queue hands out its tokens, if none of them ends the sequence, and then its last one for
ever. -/
theorem take_append {ts : List Token} (h : ∀ t ∈ ts, t.isTerminal = false) (last : Terminal)
    (n : Nat) : TokenSource.take (ts.length + n) (TokenQueue.mk ts last) =
      ts ++ List.replicate n last.token := by
  induction ts with
  | nil =>
    rw [List.length_nil, Nat.zero_add, List.nil_append]
    exact TokenSource.take_of_next_eq_self (next_nil last) n
  | cons t ts ih =>
    obtain ⟨ht, hts⟩ := List.forall_mem_cons.1 h
    have hlen : (t :: ts).length + n = ts.length + n + 1 := by
      rw [List.length_cons]
      omega
    rw [hlen, TokenSource.take_of_next (next_cons t ts last ht), ih hts, List.cons_append]

/-- **Tokens in store come out in order**, and behind them the end of the input for ever. -/
theorem take_ofTokens {ts : List Token} (h : ∀ t ∈ ts, t.isTerminal = false) (n : Nat) :
    TokenSource.take (ts.length + n) (ofTokens ts) =
      ts ++ List.replicate n ⟨.endOfInput, "", endOf ts⟩ :=
  take_append h _ n

/-- The end of some tokens is the end of the last one, taken on one line. -/
theorem endOf_eq {ts : List Token} (h : ts ≠ []) :
    endOf ts =
      ⟨(ts.getLast h).pos.line, (ts.getLast h).pos.column + (ts.getLast h).text.length⟩ := by
  rw [endOf, List.getLast?_eq_some_getLast h]

/-- **Tokens in store end on the line of the last one.** Any tokens in a row of a scan, without the
one that ends it, come out of a queue in order, and behind them comes the end of the input as often
as it is asked for. The last of the tokens stands at exactly one place of the template, and the end
is placed right behind it exactly if no line feed stands in this token; otherwise it is placed as if
its text went on in the same line. Under delimiters without line feeds this happens behind texts
only. -/
theorem take_ofTokens_span (d : Delimiters) (source : String) {span : List Token} (hne : span ≠ [])
    (hspan : span <:+: (Scanner.ofTexts (String.ofList d.opening) (String.ofList d.closing)
      source).tokens.dropLast) :
    let t := span.getLast hne
    let e : Token := ⟨.endOfInput, "", ⟨t.pos.line, t.pos.column + t.text.length⟩⟩
    (∀ n, TokenSource.take (span.length + n) (ofTokens span) = span ++ List.replicate n e) ∧
    (∃! before, t.StandsBehind source.toList before) ∧
    (∀ before, t.StandsBehind source.toList before →
      (e.pos = Position.behind (before ++ t.text.toList) ↔ '\n' ∉ t.text.toList)) ∧
    (d.OneLine → '\n' ∈ t.text.toList → t.kind = .text) := by
  intro t e
  rw [Scanner.ofTexts_eq_text] at hspan
  have hstart : (Scanner.text d Position.start source.toList).StandsBehind source.toList [] :=
    ⟨rfl, rfl⟩
  obtain ⟨ts, last, htokens, hts, -⟩ :=
    Scanner.exists_tokens_eq (.text d Position.start source.toList)
  rw [htokens, List.dropLast_concat] at hspan
  -- the last token of the span is one of the scan that does not end it
  have hlast : t ∈ ts := hspan.subset (List.getLast_mem hne)
  have hmem : t ∈ (Scanner.text d Position.start source.toList).tokens := by
    rw [htokens]
    exact List.mem_append_left _ hlast
  refine ⟨fun n => ?_, ?_, fun before hbefore => ?_, fun hd hn => ?_⟩
  · rw [take_ofTokens (fun u hu => hts u (hspan.subset hu)), endOf_eq hne]
  · obtain ⟨before, hbefore⟩ := Scanner.exists_standsBehind rfl hstart hmem (hts t hlast)
    exact ⟨before, hbefore, fun before' h => h.unique hbefore⟩
  · have hpos : e.pos = ⟨t.pos.line, t.pos.column + t.text.toList.length⟩ := by
      rw [String.length_toList]
    rw [hpos, hbefore.behind_eq, eq_comm]
    exact Position.after_eq_iff_not_mem t.pos t.text.toList
  · have hd' : (Scanner.text d Position.start source.toList).delims.OneLine := hd
    exact Scanner.kind_eq_text_of_newline hd' hmem (hts t hlast) hn

/-- Tokens that begin in the first line and end with the body of a comment in the second: their end
is right behind the body. -/
theorem take_ofTokens_comment :
    let source := "a\n\x7b\x7b!ß\x7d\x7d"
    let body : Token := ⟨.text, "ß", ⟨2, 4⟩⟩
    let span : List Token := [⟨.text, "a\n", ⟨1, 1⟩⟩, ⟨.leftDelimiter, "\x7b\x7b", ⟨2, 1⟩⟩,
      ⟨.sigil .comment, "!", ⟨2, 3⟩⟩, body]
    let d := Delimiters.braces
    span <:+: (Scanner.ofTexts (String.ofList d.opening) (String.ofList d.closing)
      source).tokens.dropLast ∧
    TokenSource.take 6 (ofTokens span) = span ++ List.replicate 2 ⟨.endOfInput, "", ⟨2, 5⟩⟩ ∧
    ∃ before, body.StandsBehind source.toList before ∧
      Position.behind (before ++ ['ß']) = ⟨2, 5⟩ := by
  intro source body span d
  have hne : span ≠ [] := List.cons_ne_nil _ _
  have hspan : span <:+: (Scanner.ofTexts (String.ofList d.opening) (String.ofList d.closing)
      source).tokens.dropLast :=
    ⟨[], [⟨.rightDelimiter, "\x7d\x7d", ⟨2, 5⟩⟩], by decide +kernel⟩
  obtain ⟨htake, ⟨before, hbefore, -⟩, hend, -⟩ := take_ofTokens_span d source hne hspan
  have hlast : span.getLast hne = body := rfl
  have htext : body.text.toList = ['ß'] := by decide
  have hlength : body.text.length = 1 := by decide
  rw [hlast] at hbefore
  rw [hlast, htext, hlength] at hend
  rw [hlast, hlength] at htake
  exact ⟨hspan, htake 2, before, hbefore, ((hend before hbefore).2 (by decide)).symm⟩

/-- **The end is misplaced behind two lines**: a scan of a text of two lines ends in the second one,
where the text ends, and a queue with this text ends in the first. -/
theorem take_ofTokens_two_lines :
    let tokens := (Scanner.ofTexts "\x7b\x7b" "\x7d\x7d" "a\nb").tokens
    let text : Token := ⟨.text, "a\nb", ⟨1, 1⟩⟩
    tokens = [text, ⟨.endOfInput, "", ⟨2, 2⟩⟩] ∧
      TokenSource.take 2 (ofTokens tokens.dropLast) = [text, ⟨.endOfInput, "", ⟨1, 4⟩⟩] ∧
      Position.behind "a\nb".toList = ⟨2, 2⟩ := by
  decide +kernel

end TokenQueue

end Mustache
