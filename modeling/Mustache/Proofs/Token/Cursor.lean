import Mustache.Proofs.Token.Moves
import Mustache.Proofs.Token.Offsets
import Mustache.Token.Source

/-! # The cursor follows the scanner
A cursor over bytes finds the tokens of the scanner (`Cursor.take_ofTexts`). Between two tokens it
stands where the scanner stands, or a part of a move farther on (`Cursor.Tracks`). So every move of
it succeeds and is one for the scanner, the beginning or the end of one (`Cursor.Tracks.step`), and
the next token follows by induction on the moves before it (`Cursor.Tracks.next`). -/

namespace Mustache

open Text

namespace Cursor

/-! ## Cursors and scanners -/

/-- **A cursor between two tokens**: it has read the one text, the other one is left, and no token
has been found. -/
structure Stands (k : Cursor) (d : Delimiters) (mode : Mode) (before ahead : List Char) : Prop
    extends HasRead k before ahead where
  /-- The opening delimiter is the one in force. -/
  opening : k.opening = d.opening
  /-- The closing delimiter is the one in force. -/
  closing : k.closing = d.closing
  /-- The cursor goes on in this mode. -/
  mode : k.mode = mode
  /-- The next token begins here. -/
  start : k.start = k.pos
  /-- No token waits. -/
  pending : k.pending = []
  /-- The last token has not been found. -/
  last : k.last = none
  /-- The count of lines has not passed this place. -/
  lines : k.lines.UpTo before

/-- **A cursor tracks a scanner**: it hands out the same tokens. A cursor that has found tokens
hands them out first; without any it has come to its end, or stands where the scanner stands or a
little farther on, behind the first part of what the scanner reads in one move. -/
inductive Tracks : Cursor → Scanner → Prop where
  /-- Outside tags. -/
  | text {k : Cursor} {d : Delimiters} {before ahead : List Char}
      (h : k.Stands d .text before ahead) : Tracks k (.text d (Position.behind before) ahead)
  /-- Before an opening delimiter. -/
  | opening {k : Cursor} {d : Delimiters} {before ahead : List Char}
      (h : k.Stands d .opening before (d.opening ++ ahead)) :
      Tracks k (.text d (Position.behind before) (d.opening ++ ahead))
  /-- Behind the equals sign of a tag that changes the delimiters. -/
  | change {k : Cursor} {d : Delimiters} {before ahead : List Char}
      (h : k.Stands d .change (before ++ (d.opening ++ ['='])) ahead) :
      Tracks k (.text d (Position.behind before) (d.opening ++ '=' :: ahead))
  /-- Inside a tag. -/
  | tag {k : Cursor} {d : Delimiters} {before ahead : List Char}
      (h : k.Stands d .tag before ahead) : Tracks k (.tag d (Position.behind before) ahead)
  /-- Before a name. -/
  | name {k : Cursor} {d : Delimiters} {before ahead : List Char} {c : Char}
      (h : k.Stands d .name before (c :: ahead)) (hgo : d.GoesOn (c :: ahead))
      (hc : isNameStart c = true) : Tracks k (.tag d (Position.behind before) (c :: ahead))
  /-- Inside a comment. -/
  | comment {k : Cursor} {d : Delimiters} {before ahead : List Char}
      (h : k.Stands d .comment before ahead) : Tracks k (.comment d (Position.behind before) ahead)
  /-- Before a closing delimiter that is due. -/
  | closing {k : Cursor} {d : Delimiters} {before ahead : List Char}
      (h : k.Stands d .closing before (d.closing ++ ahead)) :
      Tracks k (.closing d (Position.behind before) ahead)
  /-- Before a closing delimiter that has been found inside a tag. -/
  | closingTag {k : Cursor} {d : Delimiters} {before ahead : List Char}
      (h : k.Stands d .closing before (d.closing ++ ahead))
      (hraw : d.dropRawClosing? (d.closing ++ ahead) = none) :
      Tracks k (.tag d (Position.behind before) (d.closing ++ ahead))
  /-- With a token to hand out. -/
  | waiting {k : Cursor} {t : Token} {ts : List Token} {s s' : Scanner} (hp : k.pending = t :: ts)
      (hs : s.next = (t, s')) (h : Tracks { k with pending := ts } s') : Tracks k s
  /-- At the end. -/
  | ended {k : Cursor} {last : Terminal} (hp : k.pending = []) (hl : k.last = some last.token) :
      Tracks k (.finished last)

/-- **What a move of a cursor is** for the scanner that it tracks. -/
inductive Advance (k : Cursor) (s : Scanner) (k' : Cursor) : Prop where
  /-- It finds a token of the scanner. -/
  | found (hp : k'.pending ≠ []) (h : Tracks k' s)
  /-- It is a part of a move of the scanner. -/
  | part (h : Tracks k' s)
  /-- It ends a move of the scanner that hands out no token. -/
  | silent {s' : Scanner} (hm : Scanner.Move s none s') (h : Tracks k' s')

/-- A move succeeds, and is one for the scanner. -/
def Advances (k : Cursor) (s : Scanner) (o : Option Cursor) : Prop :=
  ∃ k', o = some k' ∧ Advance k s k'

section Steps

variable {k : Cursor} {d : Delimiters} {mode mode' : Mode} {s s' : Scanner} {pos : Nat}
  {before text ahead behind : List Char}

/-- A cursor with one token to hand out has found it. -/
theorem Advance.token {k' : Cursor} {t : Token} (hp : k'.pending = [t])
    (hm : Scanner.Move s (some t) s') (h : Tracks { k' with pending := [] } s') :
    Advance k s k' :=
  .found (by simp [hp]) (.waiting hp (Scanner.next_of_step_some (Scanner.step_eq_of_move hm)) h)

/-- A cursor can go on in another mode where it stands. -/
theorem Stands.changeMode (h : k.Stands d mode before ahead) :
    Stands { k with mode := mode' } d mode' before ahead :=
  ⟨⟨h.source, h.pos⟩, h.opening, h.closing, rfl, h.start, h.pending, h.last, h.lines⟩

/-- **A token of the scanner is found** where its text has been read, and the cursor stands behind
this text. -/
theorem Stands.emit (h : k.Stands d mode before (text ++ behind)) {kind : Token.Kind}
    (hkind : kind.isTerminal = false) (hpos : pos = byteLength (before ++ text))
    (hm : Scanner.Move s (some ⟨kind, String.ofList text, Position.behind before⟩) s')
    (htracks : ∀ k', k'.Stands d mode' (before ++ text) behind → Tracks k' s') :
    Advances k s ({ k with pos := pos, mode := mode' }.emit kind) := by
  have hsource : k.source = before ++ text ++ behind := by
    rw [h.source, List.append_assoc]
  obtain ⟨l, hl, hemit⟩ := emit_eq (k := { k with pos := pos, mode := mode' }) kind hsource
    (h.start.trans h.pos) hpos h.lines
  refine ⟨_, hemit, .token (by simp [h.pending]) hm (htracks _ ?_)⟩
  exact ⟨⟨hsource, hpos⟩, h.opening, h.closing, rfl, rfl, rfl, by simp [hkind, h.last],
    hl.append text⟩

/-- **An error of the scanner is found** where it stops. -/
theorem Stands.fail (h : k.Stands d mode before (text ++ behind)) {message : String}
    (hpos : pos = byteLength (before ++ text))
    (hm : Scanner.Move s (some ⟨.error, message, Position.behind (before ++ text)⟩)
      (.finished { token := ⟨.error, message, Position.behind (before ++ text)⟩ })) :
    Advances k s ({ k with pos := pos }.fail message) := by
  have hread : HasRead { k with pos := pos } (before ++ text) behind :=
    ⟨by rw [h.source, List.append_assoc], hpos⟩
  obtain ⟨l, hfail⟩ := fail_eq message hread (h.lines.append text)
  exact ⟨_, hfail, .token (by simp [h.pending]) hm (.ended rfl rfl)⟩

/-- Where nothing more has been read, the error stands where the cursor does. -/
theorem Stands.fail_here (h : k.Stands d mode before ahead) {message : String}
    (hm : Scanner.Move s (some ⟨.error, message, Position.behind before⟩)
      (.finished { token := ⟨.error, message, Position.behind before⟩ })) :
    Advances k s (k.fail message) := by
  have hpos : k.pos = byteLength (before ++ []) := by rw [List.append_nil, h.pos]
  rw [← List.append_nil before] at hm
  exact Stands.fail h hpos hm

/-! ## Moves outside tags -/

/-- **The last token is found** where nothing is left outside tags, behind those that wait. -/
theorem advances_endOfInput {k₁ : Cursor} (hread : k₁.HasRead before [])
    (hstart : k₁.start = k₁.pos) (hl : k₁.lines.UpTo before)
    (h : ∀ k', k'.pending = k₁.pending ++ [⟨.endOfInput, "", Position.behind before⟩] →
      k'.last = some ⟨.endOfInput, "", Position.behind before⟩ → Advance k s k') :
    Advances k s (k₁.emit .endOfInput) := by
  have hsource : k₁.source = before ++ [] ++ [] := by
    rw [hread.source, List.append_nil, List.append_nil]
  have hpos : k₁.pos = byteLength (before ++ []) := by rw [hread.pos, List.append_nil]
  obtain ⟨l, -, hemit⟩ := emit_eq .endOfInput hsource (hstart.trans hread.pos) hpos hl
  exact ⟨_, hemit, h _ rfl rfl⟩

/-- Where no tag follows, the text that is left is found, if any is, and behind it the last
token. -/
theorem Stands.stepText_none (h : k.Stands d .text before ahead)
    (hcut : cutAt d.opening ahead = none) :
    Advances k (.text d (Position.behind before) ahead) k.stepText := by
  have hfind : k.find k.opening = some none := by rw [h.toHasRead.find, h.opening, hcut]; rfl
  have hlength : byteLength k.source = byteLength (before ++ ahead) := by rw [h.source]
  have hend : Scanner.Move (.text d (Position.behind (before ++ ahead)) []) _ _ := .endOfInput
  simp only [Cursor.stepText, hfind, Option.bind_eq_bind, Option.bind_some]
  by_cases hne : ahead = []
  · subst hne
    rw [List.append_nil] at hend hlength
    rw [if_neg (by rw [hlength, h.start, h.pos]; omega)]
    refine advances_endOfInput ⟨h.source, hlength⟩ (by rw [h.start, h.pos, hlength]) h.lines
      fun k' hp hlast => .token ?_ hend (.ended rfl hlast)
    rw [hp, h.pending]
    rfl
  · have hm : Scanner.Move (.text d (Position.behind before) ahead) _ _ :=
      .lastText hne (cutAt_eq_none_iff.1 hcut)
    rw [← Position.behind_append] at hm
    have hnext := Scanner.next_of_step_some (Scanner.step_eq_of_move hm)
    have hnext' := Scanner.next_of_step_some (Scanner.step_eq_of_move hend)
    have hpos := length_le_byteLength ahead
    have hlen := List.length_pos_iff.2 hne
    rw [if_pos (by rw [hlength, h.start, h.pos, byteLength_append]; omega)]
    have hsource : k.source = before ++ ahead ++ [] := by rw [h.source, List.append_nil]
    obtain ⟨l, hl, hemit⟩ := emit_eq (k := { k with pos := byteLength k.source, mode := .done })
      .text hsource (h.start.trans h.pos) hlength h.lines
    rw [hemit, Option.bind_some]
    -- both tokens wait now, the text in front
    refine advances_endOfInput ⟨hsource, hlength⟩ rfl (hl.append ahead) fun k' hp hlast => ?_
    rw [h.pending] at hp
    exact .found (by simp [hp]) (.waiting hp hnext (.waiting rfl hnext' (.ended rfl hlast)))

/-- Text before a tag is found; where there is none the cursor stands before the tag at once. -/
theorem Stands.stepText_some (h : k.Stands d .text before (text ++ (d.opening ++ behind)))
    (hclear : Clear d.opening text) :
    Advances k (.text d (Position.behind before) (text ++ (d.opening ++ behind))) k.stepText := by
  have hfind : k.find k.opening = some (some (byteLength text)) := by
    rw [h.toHasRead.find, h.opening, ← List.append_assoc, cutAt_of_clear hclear]
    rfl
  simp only [Cursor.stepText, hfind, Option.bind_eq_bind, Option.bind_some]
  by_cases hne : text = []
  · subst hne
    rw [if_neg (by rw [h.start, byteLength_nil]; omega)]
    exact ⟨_, rfl, .part (.opening h.changeMode)⟩
  · have hlength := length_le_byteLength text
    have hpos := List.length_pos_iff.2 hne
    rw [if_pos (by rw [h.start]; omega)]
    have hm : Scanner.Move (.text d (Position.behind before) (text ++ (d.opening ++ behind))) _ _ :=
      .textBefore hne (List.append_assoc ..).symm hclear
    rw [← Position.behind_append] at hm
    exact h.emit rfl (by rw [byteLength_append, h.pos]) hm fun k' hk' => .opening hk'

/-- Outside tags the text up to the next tag or to the end is found. -/
theorem Stands.stepText (h : k.Stands d .text before ahead) :
    Advances k (.text d (Position.behind before) ahead) k.stepText := by
  cases hcut : cutAt d.opening ahead with
  | none => exact h.stepText_none hcut
  | some cut =>
    obtain ⟨text, behind⟩ := cut
    obtain ⟨heq, hclear⟩ := cutAt_eq_some_iff.1 hcut
    rw [List.append_assoc] at heq
    subst heq
    exact h.stepText_some hclear

/-- Behind an opening delimiter a tag begins, or one that changes the delimiters. -/
theorem Stands.stepOpening (h : k.Stands d .opening before (d.opening ++ ahead)) :
    Advances k (.text d (Position.behind before) (d.opening ++ ahead)) k.stepOpening := by
  have hpos : k.pos + byteLength k.opening = byteLength (before ++ d.opening) := by
    rw [h.pos, h.opening, byteLength_append]
  have hread : HasRead { k with pos := k.pos + byteLength k.opening } (before ++ d.opening) ahead :=
    ⟨by rw [h.source, List.append_assoc], hpos⟩
  simp only [Cursor.stepOpening, hread.peek, Option.bind_eq_bind, Option.bind_some]
  by_cases heq : ahead.head? = some '='
  · obtain ⟨behind, rfl⟩ : ∃ behind, ahead = '=' :: behind := by
      cases ahead with
      | nil => cases heq
      | cons c behind => exact ⟨behind, by simpa using heq⟩
    rw [if_pos heq]
    refine ⟨_, rfl, .part (.change ?_)⟩
    refine ⟨⟨?_, ?_⟩, h.opening, h.closing, rfl, rfl, h.pending, h.last, h.lines.append _⟩
    · simp [h.source, ignore]
    · simp only [ignore, hpos, byteLength_append, byteLength_cons, byteLength_nil]
      rw [Nat.add_assoc]
      rfl
  · rw [if_neg heq]
    have hm : Scanner.Move (.text d (Position.behind before) (d.opening ++ ahead)) _ _ :=
      .openTag rfl heq
    rw [← Position.behind_append] at hm
    exact h.emit rfl hpos hm fun k' hk' => .tag hk'

/-- A tag that changes the delimiters is read to its end, or the scanner stops where it began to
read the tag. -/
theorem Stands.stepChange (h : k.Stands d .change (before ++ (d.opening ++ ['='])) ahead) :
    Advances k (.text d (Position.behind before) (d.opening ++ '=' :: ahead)) k.stepChange := by
  have hplace : ((Position.behind before).after d.opening).next '=' =
      Position.behind (before ++ (d.opening ++ ['='])) := by
    rw [Position.behind_append, Position.after_append]
    rfl
  -- every fault of the tag is an error at this place
  have hfault : ∀ fault : ScanFault, d.readChange ahead = .error fault →
      Advances k (.text d (Position.behind before) (d.opening ++ '=' :: ahead))
        (k.fail fault.message) := by
    intro fault hread
    have hm : Scanner.Move (.text d (Position.behind before) _) _ _ := .changeFault rfl hread
    rw [hplace] at hm
    exact h.fail_here hm
  have hfind : k.find ('=' :: k.closing) =
      some ((cutAt ('=' :: d.closing) ahead).map fun cut => byteLength cut.1) := by
    rw [h.toHasRead.find, h.closing]
  simp only [Cursor.stepChange, hfind, h.toHasRead.rest, Option.bind_eq_bind, Option.bind_some]
  cases hcut : cutAt ('=' :: d.closing) ahead with
  | none => exact hfault _ (by rw [Delimiters.readChange, hcut])
  | some cut =>
    obtain ⟨body, behind⟩ := cut
    obtain ⟨hahead, hclear⟩ := cutAt_eq_some_iff.1 hcut
    have hbody : slice? 0 (byteLength body) ahead = some body :=
      slice?_eq_some_iff.2 ⟨[], '=' :: d.closing ++ behind, by simp [hahead], rfl, rfl⟩
    simp only [Option.map_some, hbody, Option.bind_some]
    split
    · rename_i opening closing hfields
      have hpair := fields_eq_pair_iff.1 hfields
      let tag : DelimiterTag :=
        ⟨body, ⟨opening, closing, hpair.first_ne_nil, hpair.second_ne_nil⟩, behind⟩
      have hread : d.readChange ahead = .ok tag :=
        Delimiters.readChange_eq_ok_iff.2 ⟨hahead, hclear, hpair⟩
      have hm : Scanner.Move (.text d (Position.behind before) (d.opening ++ '=' :: ahead)) _ _ :=
        .change rfl hread
      have htag : before ++ d.changeTag body =
          before ++ (d.opening ++ ['=']) ++ (body ++ '=' :: d.closing) := by
        simp [Delimiters.changeTag]
      rw [← Position.behind_append, htag] at hm
      refine ⟨_, rfl, .silent hm (.text ?_)⟩
      refine ⟨⟨?_, ?_⟩, rfl, rfl, rfl, rfl, h.pending, h.last, h.lines.append _⟩
      · simp [ignore, h.source, hahead, tag]
      · rw [byteLength_append, byteLength_append body, ← h.pos, ← h.closing]
        rfl
    · rename_i hfields
      exact hfault _ (Delimiters.readChange_eq_extraField hcut hfields)
    · rename_i hpair hextra
      exact hfault _ (Delimiters.readChange_eq_missingField hcut hpair hextra)

/-! ## Moves inside tags -/

/-- A closing delimiter is found where it is due. -/
theorem Stands.stepClosing (h : k.Stands d .closing before (d.closing ++ ahead))
    (hm : Scanner.Move s (some ⟨.rightDelimiter, String.ofList d.closing, Position.behind before⟩)
      (.text d ((Position.behind before).after d.closing) ahead)) :
    Advances k s k.stepClosing := by
  rw [← Position.behind_append] at hm
  exact h.emit rfl (by rw [h.pos, h.closing, byteLength_append]) hm fun k' hk' => .text hk'

/-- The body of a comment is found where it ends. -/
theorem Stands.stepComment (h : k.Stands d .comment before ahead) :
    Advances k (.comment d (Position.behind before) ahead) k.stepComment := by
  have hfind : k.find k.closing =
      some ((cutAt d.closing ahead).map fun cut => byteLength cut.1) := by
    rw [h.toHasRead.find, h.closing]
  simp only [Cursor.stepComment, hfind, Option.bind_eq_bind, Option.bind_some]
  cases hcut : cutAt d.closing ahead with
  | none => exact h.fail_here (.endInComment (cutAt_eq_none_iff.1 hcut))
  | some cut =>
    obtain ⟨body, behind⟩ := cut
    obtain ⟨heq, hclear⟩ := cutAt_eq_some_iff.1 hcut
    have hm : Scanner.Move (.comment d (Position.behind before) ahead) _ _ :=
      .commentBody heq hclear
    rw [List.append_assoc] at heq
    subst heq
    rw [← Position.behind_append] at hm
    exact h.emit rfl (by rw [h.pos, byteLength_append]) hm fun k' hk' => .closing hk'

/-- **The end of a name** is where it is cut. -/
theorem skipName_eq (hread : k.HasRead before ahead) (hclosing : k.closing = d.closing) :
    k.skipName = some { k with pos := k.pos + byteLength (d.cutName ahead).1 } := by
  -- one character after the other, with what has been read behind `before`
  induction ahead generalizing k before with
  | nil =>
    rw [skipName, hread.peek, hread.atClose hclosing, hread.atRawClose hclosing]
    simp [Delimiters.cutName]
  | cons c ahead ih =>
    have hnext : HasRead { k with pos := k.pos + c.utf8Size } (before ++ [c]) ahead :=
      ⟨by simp [hread.source], by simp [hread.pos]⟩
    rw [skipName, Delimiters.cutName, Delimiters.endsName, hread.peek, hread.atClose hclosing,
      hread.atRawClose hclosing]
    simp only [Option.bind_eq_bind, Option.bind_some, List.head?_cons, ih hnext hclosing]
    -- the name ends here for one of three reasons, or the character belongs to it
    by_cases hr : (d.dropRawClosing? (c :: ahead)).isSome
    · simp [hr]
    · by_cases hc : (d.dropClosing? (c :: ahead)).isSome
      · simp [hr, hc]
      · by_cases hb : isTagBlank c
        · simp [hr, hc, hb]
        · simp [hr, hc, hb, Nat.add_assoc]

/-- A name is found, from its first character on. -/
theorem Stands.stepName {c : Char} (h : k.Stands d .name before (c :: ahead))
    (hgo : d.GoesOn (c :: ahead)) (hc : isNameStart c = true) :
    Advances k (.tag d (Position.behind before) (c :: ahead)) k.stepName := by
  have hends : d.endsName (c :: ahead) = false := by
    simp [Delimiters.endsName, hgo.1, hgo.2, (not_blank_and_not_sign hc).1]
  have hcut : d.cutName (c :: ahead) = (c :: (d.cutName ahead).1, (d.cutName ahead).2) := by
    rw [Delimiters.cutName, hends]
    rfl
  have hm : Scanner.Move (.tag d (Position.behind before) (c :: ahead)) _ _ := .name hgo hc
  rw [← Position.behind_append] at hm
  have h' : k.Stands d .name before (c :: (d.cutName ahead).1 ++ (d.cutName ahead).2) := by
    rwa [List.cons_append, d.cutName_append]
  rw [Cursor.stepName, skipName_eq h.toHasRead h.closing, hcut]
  exact h'.emit rfl (by rw [h.pos, byteLength_append]) hm fun k' hk' => .tag hk'

/-- Where the tag is not closed, the next character tells what comes. -/
theorem Stands.stepTag_of_goesOn {c : Char} (h : k.Stands d .tag before (c :: behind))
    (hgo : d.GoesOn (c :: behind)) :
    Advances k (.tag d (Position.behind before) (c :: behind)) k.stepTag := by
  have hpos : k.pos + c.utf8Size = byteLength (before ++ [c]) := by
    rw [h.pos, byteLength_append]
    rfl
  have h' : k.Stands d .tag before ([c] ++ behind) := h
  simp only [Cursor.stepTag, h.toHasRead.atRawClose h.closing, h.toHasRead.atClose h.closing,
    h.toHasRead.peek, hgo.1, hgo.2, Option.bind_eq_bind, Option.bind_some, Option.isSome_none,
    Bool.false_eq_true, if_false, List.head?_cons]
  split
  · rename_i hn
    subst hn
    have hm : Scanner.Move (.tag d (Position.behind before) ('\n' :: behind)) _ _ := .lineEnd hgo
    rw [← Position.behind_singleton] at hm
    exact h'.fail hpos hm
  · rename_i hn
    split
    · rename_i hblank
      have hm : Scanner.Move (.tag d (Position.behind before) (c :: behind)) _ _ :=
        .blank hgo hn hblank
      rw [← Position.behind_singleton] at hm
      refine ⟨_, rfl, .silent hm (.tag ?_)⟩
      exact ⟨⟨by simp [h.source, ignore], hpos⟩, h.opening, h.closing, h.mode, rfl, h.pending,
        h.last, h.lines.append [c]⟩
    · rename_i hblank
      split
      · rename_i hsign
        have hm : Scanner.Move (.tag d (Position.behind before) (c :: behind)) _ _ :=
          .commentSign hgo hsign
        rw [← Position.behind_singleton] at hm
        exact h'.emit rfl hpos hm fun k' hk' => .comment hk'
      · rename_i sign hne hsign
        have hm : Scanner.Move (.tag d (Position.behind before) (c :: behind)) _ _ :=
          .sign hgo hsign fun heq => hne (by rw [heq])
        rw [← Position.behind_singleton] at hm
        rw [h.mode]
        exact h'.emit rfl hpos hm fun k' hk' => .tag hk'
      · rename_i hsign
        split
        · rename_i hname
          rw [Nat.add_sub_cancel]
          exact ⟨_, rfl, .part (.name h.changeMode hgo hname)⟩
        · rename_i hname
          have hm : Scanner.Move (.tag d (Position.behind before) (c :: behind)) _ _ :=
            .unrecognized hgo (by simpa using hblank) hsign (by simpa using hname)
          rw [← Position.behind_singleton] at hm
          exact h'.fail hpos hm

/-- A part of a tag is found, or the cursor stands before a name or a closing delimiter. -/
theorem Stands.stepTag (h : k.Stands d .tag before ahead) :
    Advances k (.tag d (Position.behind before) ahead) k.stepTag := by
  have hatRaw := h.toHasRead.atRawClose h.closing
  have hatClose := h.toHasRead.atClose h.closing
  cases hraw : d.dropRawClosing? ahead with
  | some behind =>
    have heq := dropMark?_eq_some_iff.1 hraw
    have hm : Scanner.Move (.tag d (Position.behind before) ahead) _ _ := .rawEnd heq
    rw [← Position.behind_singleton] at hm
    subst heq
    have h' : k.Stands d .tag before (['\x7d'] ++ (d.closing ++ behind)) := h
    rw [hraw] at hatRaw
    simp only [Cursor.stepTag, hatRaw, Option.bind_eq_bind, Option.bind_some, Option.isSome_some,
      if_true]
    exact h'.emit rfl (by rw [h.pos, byteLength_append]; rfl) hm fun k' hk' => .closing hk'
  | none =>
    cases hclose : d.dropClosing? ahead with
    | some behind =>
      have heq := dropMark?_eq_some_iff.1 hclose
      simp only [Cursor.stepTag, hatRaw, hatClose, hraw, hclose, Option.bind_eq_bind,
        Option.bind_some, Option.isSome_none, Option.isSome_some, Bool.false_eq_true, if_false,
        if_true]
      subst heq
      exact ⟨_, rfl, .part (.closingTag h.changeMode hraw)⟩
    | none =>
      cases ahead with
      | nil =>
        simp only [Cursor.stepTag, hatRaw, hatClose, h.toHasRead.peek, hraw, hclose,
          Option.bind_eq_bind, Option.bind_some, Option.isSome_none, Bool.false_eq_true, if_false,
          List.head?_nil]
        exact h.fail_here .endInTag
      | cons c behind => exact h.stepTag_of_goesOn ⟨hraw, hclose⟩

/-- **Every move of a cursor** succeeds, and is one for the scanner that the cursor tracks. -/
theorem Tracks.step (h : Tracks k s) (hp : k.pending = []) (hl : k.last = none) :
    Advances k s k.step := by
  unfold Cursor.step
  cases h with
  | text h =>
    rw [h.mode]
    exact h.stepText
  | opening h =>
    rw [h.mode]
    exact h.stepOpening
  | change h =>
    rw [h.mode]
    exact h.stepChange
  | tag h =>
    rw [h.mode]
    exact h.stepTag
  | name h hgo hc =>
    rw [h.mode]
    exact h.stepName hgo hc
  | comment h =>
    rw [h.mode]
    exact h.stepComment
  | closing h =>
    rw [h.mode]
    exact h.stepClosing .closing
  | closingTag h hraw =>
    rw [h.mode]
    exact h.stepClosing (.close hraw rfl)
  | waiting hp' =>
    rw [hp] at hp'
    cases hp'
  | ended _ hl' =>
    rw [hl] at hl'
    cases hl'

/-- A token that waits is the next one of the scanner, and behind it the cursor goes on tracking
it. -/
theorem Tracks.of_pending {t : Token} {ts : List Token} (h : Tracks k s)
    (hp : k.pending = t :: ts) : ∃ s', s.next = (t, s') ∧ Tracks { k with pending := ts } s' := by
  cases h with
  | waiting hp' hs h =>
    rw [hp] at hp'
    cases hp'
    exact ⟨_, hs, h⟩
  | ended hp' =>
    rw [hp] at hp'
    cases hp'
  | _ h =>
    have hp' := h.pending
    rw [hp] at hp'
    cases hp'

/-- A cursor that tracks a scanner and has tokens to hand out hands out that of the scanner. -/
theorem Tracks.next_of_pending (h : Tracks k s) (hp : k.pending ≠ []) :
    ∃ k', k.next = some (s.next.1, k') ∧ Tracks k' s.next.2 := by
  obtain ⟨t, ts, hp⟩ := List.exists_cons_of_ne_nil hp
  obtain ⟨s', hs, h'⟩ := h.of_pending hp
  rw [Cursor.next, hp, hs]
  exact ⟨_, rfl, h'⟩

/-- A cursor that tracks a scanner and has found the last token hands it out again and again. -/
theorem Tracks.next_of_last {t : Token} (h : Tracks k s) (hp : k.pending = [])
    (hl : k.last = some t) : ∃ k', k.next = some (s.next.1, k') ∧ Tracks k' s.next.2 := by
  cases h with
  | waiting hp' =>
    rw [hp] at hp'
    cases hp'
  | @ended _ last _ hl' =>
    rw [Cursor.next, hp, hl', Scanner.next_finished]
    exact ⟨k, rfl, .ended hp hl'⟩
  | _ h =>
    rw [h.last] at hl
    cases hl

/-- Without tokens to hand out the next token is that behind a move. -/
theorem next_of_step {k' : Cursor} (hp : k.pending = []) (hl : k.last = none)
    (h : k.step = some k') : k.next = k'.next := by
  rw [next, hp, hl, h]

/-- **The next token of a cursor** is that of the scanner that it tracks. -/
theorem Tracks.next (h : Tracks k s) :
    ∃ k', k.next = some (s.next.1, k') ∧ Tracks k' s.next.2 := by
  -- by induction on the moves before the token
  induction hn : k.movesLeft using Nat.strong_induction_on generalizing k s with
  | _ n ih =>
    subst hn
    by_cases hp : k.pending = []
    · cases hl : k.last with
      | some t => exact h.next_of_last hp hl
      | none =>
        obtain ⟨k', hstep, hadvance⟩ := h.step hp hl
        have hlt := movesLeft_step_lt hp hl hstep
        rw [next_of_step hp hl hstep]
        cases hadvance with
        | found hp' h' => exact h'.next_of_pending hp'
        | part h' => exact ih _ hlt h' rfl
        | silent hm h' =>
          rw [Scanner.next_of_step_none (Scanner.step_eq_of_move hm)]
          exact ih _ hlt h' rfl
    · exact h.next_of_pending hp

/-- **The tokens of a cursor** are those of the scanner that it tracks. -/
theorem Tracks.take (h : Tracks k s) (n : Nat) : k.take n = some (TokenSource.take n s) := by
  induction n generalizing k s with
  | zero => rfl
  | succ n ih =>
    obtain ⟨k', hnext, h'⟩ := h.next
    simp only [Cursor.take, hnext, ih h', Option.bind_eq_bind, Option.bind_some]
    rfl

end Steps

/-! ## From the start of a template -/

/-- **The states that a cursor goes through** when it is asked for tokens: a token is taken from
those that wait, and the cursor moves when none does and the last one has not been found. -/
inductive Reaches : Cursor → Cursor → Prop where
  /-- The state itself. -/
  | refl (k : Cursor) : Reaches k k
  /-- Behind a token that waits. -/
  | take {k k' : Cursor} {t : Token} {ts : List Token} (hp : k.pending = t :: ts)
      (h : Reaches { k with pending := ts } k') : Reaches k k'
  /-- Behind a move. -/
  | step {k k₁ k' : Cursor} (hp : k.pending = []) (hl : k.last = none) (hs : k.step = some k₁)
      (h : Reaches k₁ k') : Reaches k k'

section Start

variable {k k' : Cursor} {s : Scanner}

/-- Every state that a cursor goes through tracks a state of the scanner. -/
theorem Reaches.exists_tracks (h : Reaches k k') (htracks : Tracks k s) : ∃ s', Tracks k' s' := by
  induction h generalizing s with
  | refl => exact ⟨s, htracks⟩
  | take hp _ ih =>
    obtain ⟨s', -, h'⟩ := htracks.of_pending hp
    exact ih h'
  | step hp hl hs _ ih =>
    obtain ⟨k₁, hs', hadvance⟩ := htracks.step hp hl
    rw [hs] at hs'
    cases hs'
    cases hadvance with
    | found _ h => exact ih h
    | part h => exact ih h
    | silent _ h => exact ih h

/-- **A cursor that is done has found the last token.** -/
theorem Tracks.isSome_last (h : Tracks k s) (hdone : k.mode = .done) : k.last.isSome := by
  induction h with
  | waiting _ _ _ ih => exact ih hdone
  | ended _ hl => rw [hl]; rfl
  | _ h =>
    have hmode := h.mode
    rw [hdone] at hmode
    cases hmode

/-- At the start of a template the cursor tracks the scanner, whatever the delimiters. -/
theorem exists_ofTexts (opening closing template : String) :
    ∃ k, ofTexts opening closing template = some k ∧
      Tracks k (Scanner.ofTexts opening closing template) := by
  cases hd : Delimiters.ofTexts? opening closing with
  | none =>
    have hempty : opening = "" ∨ closing = "" := by
      simpa using Delimiters.ofTexts?_eq_none_iff.1 hd
    let k : Cursor :=
      { source := template.toList, opening := opening.toList, closing := closing.toList }
    have hread : k.HasRead [] template.toList := ⟨rfl, rfl⟩
    obtain ⟨l, hfail⟩ := fail_eq ScanFault.emptyDelimiter.message hread LineCount.upTo_nil
    rw [ofTexts, if_pos hempty, Scanner.ofTexts, hd]
    exact ⟨_, hfail, .waiting rfl (Scanner.next_finished _) (.ended rfl rfl)⟩
  | some d =>
    obtain ⟨hopening, hclosing⟩ := Delimiters.texts_of_ofTexts? hd
    have hne : ¬ (opening = "" ∨ closing = "") := by
      intro hempty
      have hnone := Delimiters.ofTexts?_eq_none_iff.2 (by simpa using hempty)
      rw [hd] at hnone
      cases hnone
    let k : Cursor :=
      { source := template.toList, opening := opening.toList, closing := closing.toList }
    have hstands : k.Stands d .text [] template.toList :=
      ⟨⟨rfl, rfl⟩, hopening.symm, hclosing.symm, rfl, rfl, rfl, rfl, LineCount.upTo_nil⟩
    have htracks := Tracks.text hstands
    rw [ofTexts, if_neg hne, Scanner.ofTexts, hd]
    exact ⟨k, rfl, htracks⟩

/-- **A cursor finds the tokens of the scanner.** Under any two texts as delimiters, every slice on
the way can be cut out of the template, and the tokens are those of the scanner; and whenever the
cursor is done, it has found the last token, so it never says that it stopped without one. -/
theorem take_ofTexts (opening closing template : String) :
    ∃ k, ofTexts opening closing template = some k ∧
      (∀ n, k.take n = some (TokenSource.take n (Scanner.ofTexts opening closing template))) ∧
      ∀ k', Reaches k k' → k'.mode = .done → k'.last.isSome := by
  obtain ⟨k, hk, htracks⟩ := exists_ofTexts opening closing template
  refine ⟨k, hk, htracks.take, fun k' hreaches hdone => ?_⟩
  obtain ⟨s, h⟩ := hreaches.exists_tracks htracks
  exact h.isSome_last hdone

end Start

end Cursor

end Mustache
