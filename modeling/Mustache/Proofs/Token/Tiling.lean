import Mustache.Proofs.Token.Cursor

/-! # Tokens tile the template
Every move of the scanner takes a piece of the template (`Scanner.piece_of_move`): a token takes its
own text, and a move without a token takes a gap, which is blank inside a tag and a tag that changes
the delimiters outside tags. So the tokens of a template stand on slices of it, one after the other,
with nothing but such gaps between them (`Scanner.tokens_tile`). -/

namespace Mustache

open Text

/-! ## Gaps -/

/-- **Tags that change the delimiters**, one right after the other, and the delimiters that are in
force behind them. -/
inductive Changes : Delimiters → List Char → Delimiters → Prop where
  /-- No tag. -/
  | nil (d : Delimiters) : Changes d [] d
  /-- A complete tag: its body ends where the next equals sign and closing delimiter begin, and
  has two fields, the delimiters from there on. -/
  | cons {d d' d'' : Delimiters} {body text : List Char} (hbody : Clear ('=' :: d.closing) body)
      (hfields : FieldPair Unicode.isBlank body d'.opening d'.closing) (h : Changes d' text d'') :
      Changes d (d.changeTag body ++ text) d''

/-- **Gaps between tokens** inside or outside a tag, with the delimiters before and behind them. -/
inductive Gap : (inside : Bool) → Delimiters → List Char → Delimiters → Prop where
  /-- Inside a tag: blanks. -/
  | blanks {d : Delimiters} {gap : List Char} (h : Blanks gap) : Gap true d gap d
  /-- Outside tags: tags that change the delimiters. -/
  | changes {d d' : Delimiters} {gap : List Char} (h : Changes d gap d') : Gap false d gap d'

/-- No characters at all are a gap. -/
theorem gap_nil (inside : Bool) (d : Delimiters) : Gap inside d [] d := by
  cases inside with
  | false => exact .changes (.nil d)
  | true => exact .blanks fun c hc => nomatch hc

theorem Changes.append {d d' d'' : Delimiters} {text text' : List Char} (h : Changes d text d')
    (h' : Changes d' text' d'') : Changes d (text ++ text') d'' := by
  induction h with
  | nil => exact h'
  | cons hbody hfields _ ih =>
    rw [List.append_assoc]
    exact .cons hbody hfields (ih h')

/-- Two gaps in a row are a gap. -/
theorem Gap.append {inside : Bool} {d d' d'' : Delimiters} {gap gap' : List Char}
    (h : Gap inside d gap d') (h' : Gap inside d' gap' d'') :
    Gap inside d (gap ++ gap') d'' := by
  cases h with
  | blanks h =>
    cases h' with
    | blanks h' =>
      refine .blanks fun c hc => ?_
      rcases List.mem_append.1 hc with hc | hc
      · exact h c hc
      · exact h' c hc
  | changes h =>
    cases h' with
    | changes h' => exact .changes (h.append h')

/-- Whether a tag goes on behind a token, when one did before it or did not. -/
def Token.leadsInside (t : Token) (inside : Bool) : Bool :=
  if t.kind = .leftDelimiter then true else if t.kind = .rightDelimiter then false else inside

namespace Scanner

/-! ## What is left of a template -/

/-- The text that is left. -/
def ahead : Scanner → List Char
  | text _ _ rest | tag _ _ rest | comment _ _ rest => rest
  | closing d _ rest => d.closing ++ rest
  | finished _ => []

/-- The place where the text that is left begins. -/
def place : Scanner → Position
  | text _ pos _ | tag _ pos _ | comment _ pos _ | closing _ pos _ => pos
  | finished last => last.token.pos

/-- The delimiters in force. -/
def delims : Scanner → Delimiters
  | text d _ _ | tag d _ _ | comment d _ _ | closing d _ _ => d
  | finished _ => default

/-- Whether the scanner is inside a tag. -/
def inside : Scanner → Bool
  | tag _ _ _ | comment _ _ _ | closing _ _ _ => true
  | text _ _ _ | finished _ => false

variable {s s' : Scanner} {t : Token}

/-- The token of a move ends the sequence exactly when the scanner has finished behind it. -/
theorem isTerminal_of_move (h : Move s (some t) s') : t.isTerminal = s'.isFinished := by
  cases h with
  | finished =>
    rename_i last
    exact last.isTerminal
  | _ => rfl

/-- **A token takes its text**, from where the scanner was, and leads into a tag or out of it. -/
theorem piece_of_move_some (h : Move s (some t) s') (hs' : s'.isFinished = false) :
    s.ahead = t.text.toList ++ s'.ahead ∧ t.pos = s.place ∧
      s'.place = s.place.after t.text.toList ∧ s'.delims = s.delims ∧
      s'.inside = t.leadsInside s.inside := by
  cases h with
  | endOfInput | changeFault | endInTag | lineEnd | unrecognized | endInComment | finished =>
    cases hs'
  | lastText => simp [ahead, place, delims, inside, Token.leadsInside]
  | textBefore _ hr => simp [ahead, place, delims, inside, Token.leadsInside, hr]
  | openTag hr => simp [ahead, place, delims, inside, Token.leadsInside, hr]
  | rawEnd hr => simp [ahead, place, delims, inside, Token.leadsInside, hr]
  | close _ hr => simp [ahead, place, delims, inside, Token.leadsInside, hr]
  | commentSign => simp [ahead, place, delims, inside, Token.leadsInside]
  | sign => simp [ahead, place, delims, inside, Token.leadsInside]
  | name => simp [ahead, place, delims, inside, Token.leadsInside, Delimiters.cutName_append]
  | commentBody hr => simp [ahead, place, delims, inside, Token.leadsInside, hr]
  | closing => simp [ahead, place, delims, inside, Token.leadsInside]

/-- **A move without a token takes a gap**, and leads neither into a tag nor out of it. -/
theorem piece_of_move_none (h : Move s none s') :
    ∃ gap, s.ahead = gap ++ s'.ahead ∧ s'.place = s.place.after gap ∧
      Gap s.inside s.delims gap s'.delims ∧ s'.inside = s.inside ∧ s'.isFinished = false := by
  cases h with
  | change hr h =>
    rename_i d pos rest behind tag
    obtain ⟨rfl, hbody, hfields⟩ := Delimiters.readChange_eq_ok_iff.1 h
    refine ⟨d.changeTag tag.body, ?_, rfl, ?_, rfl, rfl⟩
    · simp [ahead, hr, Delimiters.changeTag]
    · have hchange := Changes.cons hbody hfields (.nil tag.delims)
      rw [List.append_nil] at hchange
      exact .changes hchange
  | blank hgo hn hc =>
    rename_i d pos c behind
    refine ⟨[c], rfl, rfl, .blanks ?_, rfl, rfl⟩
    intro c' hc'
    rw [List.mem_singleton.1 hc']
    simp only [isTagBlank, Bool.or_eq_true, decide_eq_true_eq] at hc
    tauto

/-- A move that finishes the scanner stops it with an error, or at the end of the input, where
nothing is left. -/
theorem last_of_move {o : Option Token} (h : Move s o s') (hs : s.isFinished = false)
    (hs' : s'.isFinished = true) :
    ∃ t, o = some t ∧ t.isTerminal = true ∧ (t.kind = .error ∨
      t.kind = .endOfInput ∧ s.ahead = [] ∧ t.text = "" ∧ t.pos = s.place) := by
  cases h with
  | endOfInput => exact ⟨_, rfl, rfl, .inr ⟨rfl, rfl, rfl, rfl⟩⟩
  | changeFault | endInTag | lineEnd | unrecognized | endInComment =>
    exact ⟨_, rfl, rfl, .inl rfl⟩
  | finished => cases hs
  | _ => cases hs'

/-! ## Boundaries -/

/-- **The scanner stands between two characters** of the source: behind this text, at the place that
is counted from it, with all the rest ahead. -/
def StandsBehind (source consumed : List Char) (s : Scanner) : Prop :=
  source = consumed ++ s.ahead ∧ s.place = Position.behind consumed

/-- Behind a piece of what is ahead the scanner stands between two characters again. -/
theorem StandsBehind.piece {source consumed piece : List Char}
    (h : s.StandsBehind source consumed) (hahead : s.ahead = piece ++ s'.ahead)
    (hplace : s'.place = s.place.after piece) : s'.StandsBehind source (consumed ++ piece) := by
  obtain ⟨hsource, hs⟩ := h
  refine ⟨?_, ?_⟩
  · rw [hsource, hahead, List.append_assoc]
  · rw [hplace, hs, Position.behind_append]

/-- **Every state of a scan** stands between two characters. -/
theorem standsBehind_of_run {source consumed : List Char} {ts : List Token} (h : Run s ts s')
    (hs' : s'.isFinished = false) (hs : s.StandsBehind source consumed) :
    ∃ consumed', s'.StandsBehind source consumed' := by
  -- along the run, with what each move takes put behind what was consumed before
  induction h generalizing consumed with
  | refl => exact ⟨consumed, hs⟩
  | silent hm _ ih =>
    obtain ⟨gap, hahead, hplace, -⟩ := piece_of_move_none hm
    exact ih hs' (hs.piece hahead hplace)
  | token hm ht _ ih =>
    rw [isTerminal_of_move hm] at ht
    obtain ⟨hahead, -, hplace, -⟩ := piece_of_move_some hm ht
    exact ih hs' (hs.piece hahead hplace)

end Scanner

/-! ## Tiles -/

/-- A token with the offsets in bytes between which it stands. -/
structure Tile where
  /-- The token. -/
  token : Token
  /-- The offset at which it begins. -/
  start : Nat
  /-- The offset at which it ends. -/
  stop : Nat

/-- **A token stands where it says**: the source has its text between the two offsets, which lie
between characters, and its place is the one that is counted from the text before it. -/
def Tile.FitsIn (source : List Char) (tile : Tile) : Prop :=
  ∃ before behind, source = before ++ tile.token.text.toList ++ behind ∧
    byteLength before = tile.start ∧ byteLength (before ++ tile.token.text.toList) = tile.stop ∧
    tile.token.pos = Position.behind before

/-- **Only gaps stand between the tokens**, the first of which begins at this offset or behind a
gap, inside or outside a tag. -/
inductive Gaps (source : List Char) : (inside : Bool) → Delimiters → (start : Nat) → List Tile →
    Prop where
  /-- No token is left. -/
  | nil {inside : Bool} {d : Delimiters} {start : Nat} : Gaps source inside d start []
  /-- A gap, a token behind it, and gaps from there on. -/
  | cons {inside : Bool} {d d' : Delimiters} {start : Nat} {gap : List Char} {tile : Tile}
      {tiles : List Tile} (hslice : Slice source start tile.start gap) (hgap : Gap inside d gap d')
      (h : Gaps source (tile.token.leadsInside inside) d' tile.stop tiles) :
      Gaps source inside d start (tile :: tiles)

section Tiles

variable {source gap : List Char} {inside : Bool} {d d' : Delimiters} {start middle : Nat}
variable {tiles : List Tile}

theorem Tile.FitsIn.start_le_stop {tile : Tile} (h : tile.FitsIn source) :
    tile.start ≤ tile.stop := by
  obtain ⟨before, behind, -, hstart, hstop, -⟩ := h
  rw [byteLength_append] at hstop
  omega

/-- A gap more before the first token. -/
theorem Gaps.extend (hslice : Slice source start middle gap) (hgap : Gap inside d gap d')
    (h : Gaps source inside d' middle tiles) : Gaps source inside d start tiles := by
  cases h with
  | nil => exact .nil
  | cons hslice' hgap' h => exact .cons (hslice.append hslice') (hgap.append hgap') h

/-- Tokens with only gaps between them begin behind where the gaps do. -/
theorem Gaps.start_le (h : Gaps source inside d start tiles)
    (hfits : ∀ tile ∈ tiles, tile.FitsIn source) : ∀ tile ∈ tiles, start ≤ tile.start := by
  induction h with
  | nil => exact fun _ h => nomatch h
  | cons hslice _ _ ih =>
    rename_i tile tiles _ _
    intro tile' htile'
    have hstart := hslice.start_le_stop
    rcases List.mem_cons.1 htile' with rfl | htile'
    · exact hstart
    · -- a later token begins behind the end of the first one
      have hstop := (hfits tile List.mem_cons_self).start_le_stop
      have hrest := ih (fun t ht => hfits t (List.mem_cons_of_mem tile ht)) tile' htile'
      omega

/-- Tokens with only gaps between them do not overlap, and come in order. -/
theorem Gaps.pairwise (h : Gaps source inside d start tiles)
    (hfits : ∀ tile ∈ tiles, tile.FitsIn source) :
    tiles.Pairwise fun a b => a.stop ≤ b.start := by
  induction h with
  | nil => exact .nil
  | cons _ _ h ih =>
    rename_i tile tiles _ _
    have hfits' : ∀ t ∈ tiles, t.FitsIn source := fun t ht => hfits t (List.mem_cons_of_mem tile ht)
    exact .cons (h.start_le hfits') (ih hfits')

end Tiles

namespace Scanner

/-- **The tokens of a state on slices** of the source, behind what was consumed before. -/
structure TilesOf (source consumed : List Char) (s : Scanner) (tiles : List Tile) : Prop where
  /-- The tiles hold the tokens other than errors. -/
  tokens : tiles.map Tile.token = s.tokens.filter (fun t => t.kind ≠ .error)
  /-- Every token stands where it says. -/
  fits : ∀ tile ∈ tiles, tile.FitsIn source
  /-- Only gaps stand between the tokens. -/
  gaps : Gaps source s.inside s.delims (byteLength consumed) tiles
  /-- The end of the input stands at the end. -/
  last : ∀ tile ∈ tiles, tile.token.kind = .endOfInput →
    tile.start = byteLength source ∧ tile.stop = byteLength source

section TilesOf

variable {source consumed : List Char} {s s' : Scanner} {t : Token} {tiles : List Tile}

/-- Between two characters there is an empty slice. -/
theorem StandsBehind.slice_nil (h : s.StandsBehind source consumed) :
    Slice source (byteLength consumed) (byteLength consumed) [] :=
  ⟨consumed, s.ahead, by rw [h.1, List.append_nil], rfl, by rw [List.append_nil]⟩

/-- A last token stands on the empty slice at the end, unless it is an error. -/
theorem exists_tilesOf_last {o : Option Token} (hm : Move s o s') (hf : s.isFinished = false)
    (hs' : s'.isFinished = true) (hs : s.StandsBehind source consumed) :
    ∃ tiles, TilesOf source consumed s tiles := by
  obtain ⟨t, rfl, ht, hkind⟩ := last_of_move hm hf hs'
  have htokens := tokens_of_move_terminal hm ht
  rcases hkind with hkind | ⟨hkind, hahead, htext, hpos⟩
  · -- an error, on no tile
    exact ⟨[], by simp [htokens, hkind], by simp, .nil, by simp⟩
  · -- the end of the input
    have hslice := hs.slice_nil
    obtain ⟨hsource, hplace⟩ := hs
    rw [hahead, List.append_nil] at hsource
    subst hsource
    refine ⟨[⟨t, byteLength source, byteLength source⟩], by simp [htokens, hkind], ?_,
      .cons hslice (gap_nil _ _) .nil, by simp⟩
    simp only [List.forall_mem_singleton]
    exact ⟨source, [], by simp [htext], rfl, by simp [htext], hpos.trans hplace⟩

/-- A move without a token leaves a gap before the tiles. -/
theorem TilesOf.gap {gap : List Char} (hm : Move s none s')
    (hs : s'.StandsBehind source (consumed ++ gap)) (hgap : Gap s.inside s.delims gap s'.delims)
    (hinside : s'.inside = s.inside) (h : TilesOf source (consumed ++ gap) s' tiles) :
    TilesOf source consumed s tiles := by
  refine ⟨?_, h.fits, ?_, h.last⟩
  · rw [h.tokens, tokens_of_move_none hm]
  · have hslice : Slice source (byteLength consumed) (byteLength (consumed ++ gap)) gap :=
      ⟨consumed, s'.ahead, hs.1, rfl, rfl⟩
    exact .extend hslice hgap (hinside ▸ h.gaps)

/-- A token stands on the piece that it takes, before the other tiles. -/
theorem TilesOf.token (hm : Move s (some t) s') (hf : s'.isFinished = false)
    (hs : s.StandsBehind source consumed)
    (h : TilesOf source (consumed ++ t.text.toList) s' tiles) :
    TilesOf source consumed s
      (⟨t, byteLength consumed, byteLength (consumed ++ t.text.toList)⟩ :: tiles) := by
  obtain ⟨hahead, hpos, hplace, hdelims, hinside⟩ := piece_of_move_some hm hf
  -- the scanner goes on, so the token is neither an error nor the end of the input
  have ht := (isTerminal_of_move hm).trans hf
  have hkind : t.kind ≠ .error ∧ t.kind ≠ .endOfInput := by
    constructor <;> intro hk <;> rw [Token.isTerminal, hk] at ht <;> cases ht
  have hs' := hs.piece hahead hplace
  refine ⟨?_, ?_, ?_, ?_⟩
  · rw [List.map_cons, h.tokens, tokens_of_move_some hm ht,
      List.filter_cons_of_pos (by simpa using hkind.1)]
  · exact List.forall_mem_cons.2
      ⟨⟨consumed, s'.ahead, hs'.1, rfl, rfl, hpos.trans hs.2⟩, h.fits⟩
  · have hgaps := h.gaps
    rw [hinside, hdelims] at hgaps
    exact .cons hs.slice_nil (gap_nil _ _) hgaps
  · exact List.forall_mem_cons.2 ⟨fun hk => absurd hk hkind.2, h.last⟩

/-- The tokens of every state stand on slices of the source. -/
theorem exists_tilesOf (s : Scanner) (hf : s.isFinished = false)
    (hs : s.StandsBehind source consumed) : ∃ tiles, TilesOf source consumed s tiles := by
  -- along the moves: the tiles behind a move begin where its piece ends
  induction s using induction_on_moves generalizing consumed with
  | finished last => cases hf
  | move s o s' _ hm ih =>
    cases hs' : s'.isFinished with
    | true => exact exists_tilesOf_last hm hf hs' hs
    | false =>
      cases o with
      | none =>
        obtain ⟨gap, hahead, hplace, hgap, hinside, -⟩ := piece_of_move_none hm
        have hstands := hs.piece hahead hplace
        obtain ⟨tiles, htiles⟩ := ih hs' hstands
        exact ⟨tiles, htiles.gap hm hstands hgap hinside⟩
      | some t =>
        obtain ⟨hahead, -, hplace, -⟩ := piece_of_move_some hm hs'
        obtain ⟨tiles, htiles⟩ := ih hs' (hs.piece hahead hplace)
        exact ⟨_, htiles.token hm hs' hs⟩

end TilesOf

/-- **Tokens tile the template.** The tokens of a template other than errors stand on slices of it,
in order and without overlaps, the end of the input on the empty one at the end. Each of them has
the text of its slice and the place at which this begins. Only gaps stand between them: blanks
inside a tag, and outside tags nothing but complete tags that change the delimiters. In every state
on the way the scanner stands between two characters; and a cursor, which cuts its slices out of the
template by offsets and has none at an offset inside a character, finds the same tokens. -/
theorem tokens_tile (d : Delimiters) (source : String) :
    (∃ tiles : List Tile,
      tiles.map Tile.token =
        (ofTexts (String.ofList d.opening) (String.ofList d.closing) source).tokens.filter
          (fun t => t.kind ≠ .error) ∧
      (∀ tile ∈ tiles, tile.FitsIn source.toList) ∧
      tiles.Pairwise (fun a b => a.stop ≤ b.start) ∧
      Gaps source.toList false d 0 tiles ∧
      ∀ tile ∈ tiles, tile.token.kind = .endOfInput →
        tile.start = source.utf8ByteSize ∧ tile.stop = source.utf8ByteSize) ∧
    (∀ ts s, Run (ofTexts (String.ofList d.opening) (String.ofList d.closing) source) ts s →
      s.isFinished = false → ∃ consumed, s.StandsBehind source.toList consumed) ∧
    ∃ k, Cursor.ofTexts (String.ofList d.opening) (String.ofList d.closing) source = some k ∧
      ∀ n, k.take n = some (TokenSource.take n
        (ofTexts (String.ofList d.opening) (String.ofList d.closing) source)) := by
  obtain ⟨k, hk, htake, -⟩ := Cursor.take_ofTexts (String.ofList d.opening)
    (String.ofList d.closing) source
  rw [ofTexts_eq_text] at htake ⊢
  have hstart : (text d Position.start source.toList).StandsBehind source.toList [] := ⟨rfl, rfl⟩
  refine ⟨?_, ?_, k, hk, htake⟩
  · obtain ⟨tiles, htiles⟩ := exists_tilesOf _ rfl hstart
    have hlast := htiles.last
    rw [byteLength_toList] at hlast
    exact ⟨tiles, htiles.tokens, htiles.fits, htiles.gaps.pairwise htiles.fits, htiles.gaps, hlast⟩
  · intro ts s hrun hs
    exact standsBehind_of_run hrun hs hstart

end Scanner

end Mustache
