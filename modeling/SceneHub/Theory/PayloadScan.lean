import SceneHub.Ingest.Control

/-!
# What a Scanner Hands Back

The scanner of payloads moves over a text and hands back what it has moved over. What it
hands back of a string is closed: no escape is cut off, so a copy of the string stops for
lack of room only. And its members are shorter than the text, so the bound on their number
is never met.

## Main definitions

* `closed`: No escape is cut off at the end.
* `Value.Clean`: What is known of a value in a payload.
* `Buffer.Tracks`: An array holds the last string that was copied to it.

## Theorems

* `nextPair_member`: What is left behind a member.
* `readPairs_error`: The bound on the number of members is never met.
* `readPairs_clean`: The values of a payload.
* `copyString_fits`: A copy of a string that fits.
* `Buffer.Tracks.fold`: What an array holds behind all members.
-/

namespace SceneHub.Ingest

variable {text : List Char} {err : EspErr}

/-! ### Strings -/

/-- No escape is cut off at the end. -/
def closed : List Char → Bool
  | [] => true
  | '\\' :: [] => false
  | '\\' :: _ :: rest => closed rest
  | _ :: rest => closed rest

theorem closed_cons {c : Char} {rest : List Char} (h : c ≠ '\\') :
    closed (c :: rest) = closed rest := by
  rw [closed]
  · intro heq _
    exact h heq
  · intro d rest' heq _
    exact h heq

theorem skipString_eq {r : List Char × List Char} (h : skipString text = some r) :
    text = r.1 ++ '"' :: r.2 ∧ closed r.1 = true := by
  fun_induction skipString text generalizing r with
  | case1 => cases h
  | case2 => cases h
  | case3 c rest ih =>
    rcases Option.map_eq_some_iff.1 h with ⟨r', hr', rfl⟩
    rcases ih hr' with ⟨htext, hclosed⟩
    exact ⟨by rw [htext]; rfl, hclosed⟩
  | case4 rest =>
    cases h
    exact ⟨rfl, rfl⟩
  | case5 c rest hend hescape hquote ih =>
    rcases Option.map_eq_some_iff.1 h with ⟨r', hr', rfl⟩
    rcases ih hr' with ⟨htext, hclosed⟩
    refine ⟨by rw [htext]; rfl, ?_⟩
    -- The byte is no backslash, which would have a byte behind it.
    have hslash : c ≠ '\\' := by
      rintro rfl
      cases rest with
      | nil => exact hend rfl rfl
      | cons d rest' => exact hescape d rest' rfl rfl
    rw [closed_cons hslash]
    exact hclosed

theorem copyString_fits {size : Nat} (body written : List Char) (hclosed : closed body = true)
    (hfits : written.length + (decode body).length < size) :
    copyString size body written = (true, written ++ decode body) := by
  fun_induction copyString size body written with
  | case1 written => rw [decode, List.append_nil]
  | case2 => cases hclosed
  | case3 c rest written ch hch hroom | case5 c rest written hch hroom =>
    rw [decode, hch] at hfits
    simp only [List.length_cons] at hfits
    omega
  | case4 c rest written ch hch hroom ih =>
    rw [decode, hch] at hfits ⊢
    simp only [List.length_cons] at hfits
    have hlength : (written ++ [ch]).length + (decode rest).length < size := by
      simp only [List.length_append, List.length_singleton]
      omega
    rw [ih hclosed hlength, List.append_assoc]
    rfl
  | case6 c rest written hch hroom ih =>
    rw [decode, hch] at hfits ⊢
    simp only [List.length_cons] at hfits
    have hlength : (written ++ ['\\', c]).length + (decode rest).length < size := by
      simp only [List.length_append, List.length_cons, List.length_nil]
      omega
    rw [ih hclosed hlength, List.append_assoc]
    rfl
  | case7 c rest written hend hescape hroom =>
    rw [decode] at hfits
    · simp only [List.length_cons] at hfits
      omega
    · exact hend
    · exact hescape
  | case8 c rest written hend hescape hroom ih =>
    have hdecode : decode (c :: rest) = c :: decode rest := by
      rw [decode]
      · exact hend
      · exact hescape
    rw [hdecode] at hfits ⊢
    simp only [List.length_cons] at hfits
    have hlength : (written ++ [c]).length + (decode rest).length < size := by
      simp only [List.length_append, List.length_singleton]
      omega
    have hrest : closed rest = true := by
      rw [closed] at hclosed
      · exact hclosed
      · exact hend
      · exact hescape
    rw [ih hrest hlength, List.append_assoc]
    rfl

/-- No escape stands for the closing zero. -/
theorem decode_zero {body : List Char} (h : '\x00' ∉ body) : '\x00' ∉ decode body := by
  fun_induction decode body with
  | case1 => exact h
  | case2 => exact List.not_mem_nil
  | case3 c rest ch hch ih =>
    simp only [List.mem_cons, not_or] at h ⊢
    refine ⟨?_, ih h.2.2⟩
    rintro rfl
    unfold unescape at hch
    split_ifs at hch with h1 h2 h3 h4 h5 h6
    · exact h.2.1 (Option.some.inj hch).symm
    · exact absurd (Option.some.inj hch) (by decide)
    · exact absurd (Option.some.inj hch) (by decide)
    · exact absurd (Option.some.inj hch) (by decide)
    · exact absurd (Option.some.inj hch) (by decide)
    · exact absurd (Option.some.inj hch) (by decide)
  | case4 c rest hch ih =>
    simp only [List.mem_cons, not_or] at h ⊢
    exact ⟨h.1, h.2.1, ih h.2.2⟩
  | case5 c rest hend hescape ih =>
    simp only [List.mem_cons, not_or] at h ⊢
    exact ⟨h.1, ih h.2⟩

/-! ### Members -/

theorem skipWs_suffix (text : List Char) : skipWs text <:+ text := List.dropWhile_suffix _

theorem skipNested_suffix {stack text : List Char} {mode : Nesting}
    {r : List Char × List Char} (h : skipNested stack mode text = some r) : r.2 <:+ text := by
  induction text generalizing stack mode r with
  | nil =>
    cases mode <;> cases h
  | cons c rest ih =>
    have hmap : ∀ {stack mode}, (skipNested stack mode rest).map (fun r => (c :: r.1, r.2)) =
        some r → r.2 <:+ c :: rest := by
      intro stack mode hr
      rcases Option.map_eq_some_iff.1 hr with ⟨r', hr', rfl⟩
      exact (ih hr').trans (List.suffix_cons c rest)
    cases mode with
    | escaped => exact hmap h
    | quoted => exact hmap h
    | plain =>
      unfold skipNested at h
      split_ifs at h
      · exact hmap h
      · exact hmap h
      · split at h
        · cases h
        · next top below =>
            by_cases hclose : c ≠ (if top = '{' then '}' else ']')
            · rw [if_pos hclose] at h
              cases h
            rw [if_neg hclose] at h
            split at h
            · cases h
              exact List.suffix_cons c rest
            · exact hmap h
      · exact hmap h

/-- A string in a value is closed and has none of the closing zero. -/
def Value.Clean : Value → Prop
  | .string body => closed body = true ∧ '\x00' ∉ body
  | .raw _ => True

theorem skipValue_eq {r : Value × List Char} (hzero : '\x00' ∉ text) (h : skipValue text = some r) :
    r.1.Clean ∧ r.2 <:+ text := by
  cases text with
  | nil => cases h
  | cons c rest =>
    unfold skipValue at h
    dsimp only at h
    split_ifs at h
    · rcases Option.map_eq_some_iff.1 h with ⟨r', hr', rfl⟩
      rcases skipString_eq hr' with ⟨htext, hclosed⟩
      refine ⟨⟨hclosed, fun hmem => hzero ?_⟩, ?_⟩
      · rw [htext]
        exact List.mem_cons_of_mem c (List.mem_append_left _ hmem)
      · rw [htext]
        exact ⟨c :: (r'.1 ++ ['"']), by simp⟩
    · rcases Option.map_eq_some_iff.1 h with ⟨r', hr', rfl⟩
      exact ⟨trivial, (skipNested_suffix hr').trans (List.suffix_cons c rest)⟩
    · cases h
      exact ⟨trivial, List.dropWhile_suffix _⟩

theorem readKey_eq {text key rest : List Char} (h : readKey text = .ok (key, rest)) :
    rest <:+ text ∧ rest.length < text.length := by
  induction text generalizing key rest with
  | nil => cases h
  | cons c tail ih =>
    unfold readKey at h
    split_ifs at h
    · cases h
      exact ⟨List.suffix_cons c tail, Nat.lt_succ_self _⟩
    split at h
    · cases h
    rename_i r hread
    cases h
    rcases ih hread with ⟨hsuffix, hlt⟩
    exact ⟨hsuffix.trans (List.suffix_cons c tail), Nat.lt_succ_of_lt hlt⟩

theorem readValue_eq {key text key' rest : List Char} {v : Value} (hzero : '\x00' ∉ text)
    (h : readValue key text = .ok (.member key' v rest)) : v.Clean ∧ rest <:+ text := by
  unfold readValue at h
  have hws := skipWs_suffix text
  split at h
  · cases h
  · next c colon hcolon =>
      rw [hcolon] at hws
      split_ifs at h
      have hvalue := (skipWs_suffix colon).trans ((List.suffix_cons c colon).trans hws)
      split at h
      · cases h
      · next v' behind hv =>
          have hzero' : '\x00' ∉ skipWs colon := fun hmem => hzero (hvalue.subset hmem)
          rcases skipValue_eq hzero' hv with ⟨hclean, hbehind⟩
          have hend := (skipWs_suffix behind).trans (hbehind.trans hvalue)
          split at h
          · cases h
          · next d last hlast =>
              rw [hlast] at hend
              split_ifs at h
              · cases h
                exact ⟨hclean, (List.suffix_cons d _).trans hend⟩
              · cases h
                exact ⟨hclean, hend⟩

/-- The codes that the scanner fails with. -/
def ScanError (err : EspErr) : Prop := err = .invalidArg ∨ err = .notSupported

theorem readKey_error (h : readKey text = .error err) : ScanError err := by
  induction text with
  | nil =>
    cases h
    exact .inl rfl
  | cons c tail ih =>
    unfold readKey at h
    split_ifs at h
    · cases h
      exact .inr rfl
    cases hread : readKey tail with
    | error err' =>
      rw [hread] at h
      cases h
      exact ih hread
    | ok r =>
      rw [hread] at h
      cases h

theorem readValue_error {key text : List Char} (h : readValue key text = .error err) :
    ScanError err := by
  unfold readValue at h
  split at h
  · cases h
    exact .inl rfl
  split_ifs at h
  · cases h
    exact .inl rfl
  split at h
  · cases h
    exact .inl rfl
  split at h
  · cases h
    exact .inl rfl
  split_ifs at h
  cases h
  exact .inl rfl

theorem nextPair_error (h : nextPair text = .error err) : ScanError err := by
  unfold nextPair at h
  split at h
  · cases h
    exact .inl rfl
  · next c quote hquote =>
      split_ifs at h
      · cases h
        exact .inl rfl
      cases hkey : readKey quote with
      | error err' =>
        rw [hkey] at h
        cases h
        exact readKey_error hkey
      | ok r =>
        rw [hkey] at h
        exact readValue_error h

theorem nextPair_member {text key rest : List Char} {v : Value} (hzero : '\x00' ∉ text)
    (h : nextPair text = .ok (.member key v rest)) :
    v.Clean ∧ rest <:+ text ∧ rest.length < text.length := by
  unfold nextPair at h
  have hws := skipWs_suffix text
  split at h
  · cases h
  · next c quote hquote =>
      rw [hquote] at hws
      have hlen := hws.length_le
      simp only [List.length_cons] at hlen
      split_ifs at h
      · cases h
      cases hkey : readKey quote with
      | error err =>
        rw [hkey] at h
        cases h
      | ok r =>
        rw [hkey] at h
        rcases readKey_eq hkey with ⟨hsuffix, hlt⟩
        have hbehind := hsuffix.trans ((List.suffix_cons c quote).trans hws)
        have hzero' : '\x00' ∉ r.2 := fun hmem => hzero (hbehind.subset hmem)
        rcases readValue_eq hzero' h with ⟨hclean, hrest⟩
        have := hrest.length_le
        exact ⟨hclean, hrest.trans hbehind, by omega⟩

/-- With a bound above the length of the text, reading does not stop at the bound. -/
theorem readPairs_error (fuel : Nat) (hzero : '\x00' ∉ text) (hfuel : text.length < fuel)
    (h : (readPairs fuel text).2 = .error err) : ScanError err := by
  induction fuel generalizing text with
  | zero => omega
  | succ fuel ih =>
    unfold readPairs at h
    cases hpair : nextPair text with
    | error err' =>
      rw [hpair] at h
      cases h
      exact nextPair_error hpair
    | ok pair =>
      rw [hpair] at h
      cases pair with
      | close rest => cases h
      | member key v rest =>
        rcases nextPair_member hzero hpair with ⟨-, hsuffix, hlt⟩
        exact ih (fun hmem => hzero (hsuffix.subset hmem)) (by omega) h

theorem readPairs_clean (fuel : Nat) (hzero : '\x00' ∉ text) :
    ∀ p ∈ (readPairs fuel text).1, p.2.Clean := by
  induction fuel generalizing text with
  | zero => exact nofun
  | succ fuel ih =>
    unfold readPairs
    cases hpair : nextPair text with
    | error err => exact nofun
    | ok pair =>
      cases pair with
      | close rest => exact nofun
      | member key v rest =>
        rcases nextPair_member hzero hpair with ⟨hclean, hsuffix, -⟩
        intro p hp
        rcases List.mem_cons.1 hp with rfl | hp
        · exact hclean
        · exact ih (fun hmem => hzero (hsuffix.subset hmem)) p hp

/-! ### Arrays -/

namespace Buffer

variable {size : Nat}

theorem text_length (b : Buffer size) : b.text.length < size := by
  have hpos := b.size_pos
  rcases Nat.lt_or_ge b.text.length size with hlt | hge
  · exact hlt
  -- All bytes would be in front of the first zero, the last one too.
  have hall : b.bytes.takeWhile (· ≠ '\x00') = b.bytes := by
    refine (List.takeWhile_prefix _).eq_of_length_le ?_
    rw [b.length_eq]
    exact hge
  have hmem := List.mem_of_getElem? b.last
  rw [← hall] at hmem
  have hne := List.all_eq_true.1 List.all_takeWhile _ hmem
  simp at hne

theorem text_store {b : Buffer size} {w : List Char} (h : w.length < size) (hzero : '\x00' ∉ w) :
    (b.store w h).text = w := by
  have hall : ∀ c ∈ w, (decide (c ≠ '\x00')) = true := by
    intro c hc
    rw [decide_eq_true_iff]
    rintro rfl
    exact hzero hc
  unfold text store
  rw [List.takeWhile_append_of_pos hall, List.takeWhile_cons_of_neg (by simp), List.append_nil]

/-- An array holds the last string that was copied to it, if that fits, and what it held before
    if none was. -/
def Tracks (before : Buffer size) (own : Option (List Char)) (b : Buffer size) : Prop :=
  match own with
  | none => b = before
  | some text => text.length < size → b.text = text

end Buffer

/-- The text of a string, and nothing of any other value. -/
def Value.decoded : Value → Option (List Char)
  | .string body => some (decode body)
  | .raw _ => none

theorem Buffer.Tracks.copy {size : Nat} {before b : Buffer size} {own : Option (List Char)}
    {v : Value} (h : Tracks before own b) (hv : v.Clean) :
    Tracks before (v.decoded.or own) (copyStringField v b) := by
  cases v with
  | raw text => exact h
  | string body =>
    intro hfits
    have hcopy := copyString_fits body [] hv.1 (by simpa using hfits)
    unfold copyStringField
    simp only [hcopy, List.nil_append, if_true]
    exact text_store _ (decode_zero hv.2)

/-- The last string of that name among the members of a payload. -/
def ownText (pairs : List (List Char × Value)) (key : List Char) : Option (List Char) :=
  pairs.foldl (fun own p => if p.1 = key then p.2.decoded.or own else own) none

/-- What a payload does to an array that takes the strings of one name. -/
theorem Buffer.Tracks.fold {size : Nat} (b : Buffer size) (key : List Char)
    {pairs : List (List Char × Value)} (hclean : ∀ p ∈ pairs, p.2.Clean) :
    Tracks b (ownText pairs key)
      (pairs.foldl (fun b p => if p.1 = key then copyStringField p.2 b else b) b) := by
  have hfrom : ∀ own c, Tracks b own c → Tracks b
      (pairs.foldl (fun own p => if p.1 = key then p.2.decoded.or own else own) own)
      (pairs.foldl (fun b p => if p.1 = key then copyStringField p.2 b else b) c) := by
    induction pairs with
    | nil => exact fun own c h => h
    | cons p rest ih =>
      intro own c h
      rw [List.foldl_cons, List.foldl_cons]
      refine ih (fun q hq => hclean q (List.mem_cons_of_mem p hq)) _ _ ?_
      by_cases hkey : p.1 = key
      · rw [if_pos hkey, if_pos hkey]
        exact h.copy (hclean p List.mem_cons_self)
      · rw [if_neg hkey, if_neg hkey]
        exact h
  exact hfrom none b rfl

end SceneHub.Ingest
