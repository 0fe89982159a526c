import Mathlib
import Rehost.Rootfs.Resolve
/-!
# Components of joined paths

A *plain name* is a component that splitting a path keeps whole: it is not
empty, holds no `/` byte, and is neither `.` nor `..`. Every name that
`Path.parts` produces is plain (`Path.plainName_of_mem_parts`), and the UTF-8
bytes of a text with no `/` that is not empty, `.` or `..` form a plain name
(`Utf8.plainName_ofText`). Text decoded lossily from bytes with no `/` has
no `/` (`Utf8.slash_not_mem_toText`).

A path *spells* a key when its components are the root followed by the names
of the key. Pushing a plain name onto a spelled path spells the longer key
(`Path.Spells.pushBytes`), so every path the sanitizer builds from the root of
its copy, with `push`, `pushBytes` or `joinParts`, names exactly the entry one
expects, with no `..` or `/` hidden in a component.
-/

namespace Rehost

/-- A component that splitting a path keeps as one name. -/
def PlainName (n : List UInt8) : Prop :=
  n ≠ [] ∧ Path.slash ∉ n ∧ n ≠ [46] ∧ n ≠ [46, 46]

instance (n : List UInt8) : Decidable (PlainName n) := inferInstanceAs (Decidable (_ ∧ _))

/-- `p` is an absolute path naming the key `k`, component by component. -/
def Path.Spells (p : Path) (k : List (List UInt8)) : Prop :=
  p.parts = .root :: k.map Part.name

instance (p : Path) (k : List (List UInt8)) : Decidable (p.Spells k) :=
  inferInstanceAs (Decidable (_ = _))

/-- No piece of a split list holds the separator. -/
theorem not_mem_of_mem_splitOn {α : Type} [BEq α] [LawfulBEq α] {xs piece : List α} {a : α}
    (h : piece ∈ xs.splitOn a) : a ∉ piece := by
  induction xs generalizing piece with
  | nil => simp_all
  | cons x xs ih =>
    rw [List.splitOn_cons_eq_if_modifyHead] at h
    split at h
    · rcases List.mem_cons.mp h with rfl | h
      · simp
      · exact ih h
    · obtain ⟨hd, tl, hsplit⟩ := List.exists_cons_of_ne_nil (List.splitOn_ne_nil a xs)
      rw [hsplit] at h ih
      simp only [List.modifyHead_cons, List.mem_cons] at h
      rcases h with rfl | h
      · simp only [List.mem_cons, not_or]
        exact ⟨fun hx => by simp_all, ih (by simp)⟩
      · exact ih (by simp [h])

namespace Utf8

private theorem toList_loop (bs : ByteArray) (i : Nat) (r : List UInt8) :
    ByteArray.toList.loop bs i r = r.reverse ++ bs.data.toList.drop i := by
  fun_induction ByteArray.toList.loop bs i r with
  | case1 i r hi ih =>
    rw [ih]
    have hi' : i < bs.data.toList.length := by simpa using hi
    have hget : bs.get! i = bs.data.toList[i] := by simp [ByteArray.get!, hi]
    rw [hget, List.reverse_cons, List.append_assoc, List.singleton_append,
      ← List.drop_eq_getElem_cons hi']
  | case2 i r hi =>
    have hnil : bs.data.toList.drop i = [] := by simp; omega
    simp [hnil]

private theorem byteArray_toList (bs : ByteArray) : bs.toList = bs.data.toList := by
  simp [ByteArray.toList, toList_loop]

/-- The bytes of a text are the encodings of its characters, one after another. -/
theorem ofText_eq_flatMap (s : String) : ofText s = s.toList.flatMap String.utf8EncodeChar := by
  rw [ofText, String.toUTF8_eq_toByteArray, ← String.utf8Encode_toList, byteArray_toList]
  simp [List.utf8Encode]

/-- Only `/` itself encodes to a byte `/`: every other character either is a
    different single byte or has all its bytes at `0x80` or above. -/
theorem slash_mem_utf8EncodeChar (c : Char) : Path.slash ∈ String.utf8EncodeChar c ↔ c = '/' := by
  constructor
  · intro h
    unfold String.utf8EncodeChar at h
    simp only [] at h
    split_ifs at h with h1 h2 h3
    · simp only [Path.slash, List.mem_singleton, UInt8.ext_iff, UInt8.toNat_ofNat,
        UInt8.toNat_ofNat'] at h
      have h47 : c.val.toNat = 47 := by omega
      exact Char.ext (UInt32.toNat_inj.mp h47)
    all_goals
      simp only [Path.slash, List.mem_cons, List.not_mem_nil, or_false, UInt8.ext_iff,
        UInt8.toNat_ofNat, UInt8.toNat_ofNat'] at h
      omega
  · rintro rfl; decide

/-- A text encodes to a `/` byte exactly when it holds a `/`. -/
theorem slash_mem_ofText (s : String) : Path.slash ∈ ofText s ↔ '/' ∈ s.toList := by
  simp [ofText_eq_flatMap, slash_mem_utf8EncodeChar]

/-! ### Lossy decoding makes no slash -/

/-- Continuation bytes only raise the code point: each multiplies it by 64. -/
theorem le_continuation {acc n : Nat} {bs : List UInt8} {used cp u : Nat}
    (h : continuation acc n bs used = .ok (cp, u)) : acc * 64 ^ n ≤ cp := by
  induction n generalizing acc bs used with
  | zero =>
    simp only [continuation, Except.ok.injEq, Prod.mk.injEq] at h
    simp [h.1]
  | succ n ih =>
    cases bs with
    | nil => simp [continuation] at h
    | cons c rest =>
      simp only [continuation] at h
      split at h
      · have hcp := ih h
        calc acc * 64 ^ (n + 1) = acc * 64 * 64 ^ n := by ring
          _ ≤ (acc * 64 + (c.toNat - 0x80)) * 64 ^ n := by gcongr; omega
          _ ≤ cp := hcp
      · cases h

private theorem ofNat_eq_slash {n : Nat} (h : Char.ofNat n = '/') : n = 47 := by
  unfold Char.ofNat at h
  split at h
  · have := congrArg Char.toNat h
    exact this
  · exact absurd h (by decide)

/-- What the first two bytes of a sequence make, as the decoder combines
    them: 128 or more when no byte follows, and 2 or more when one or two
    follow. -/
theorem leadAcc_bound {b c lo hi : UInt8} {n : Nat} (hb : leadInfo b = some (n, lo, hi))
    (hc : lo ≤ c) :
    (n = 1 ∧ 128 ≤ b.toNat % (if n == 1 then 32 else if n == 2 then 16 else 8) * 64 +
      (c.toNat - 128)) ∨
    (2 ≤ n ∧ 2 ≤ b.toNat % (if n == 1 then 32 else if n == 2 then 16 else 8) * 64 +
      (c.toNat - 128)) := by
  have hlo : lo.toNat ≤ c.toNat := UInt8.le_iff_toNat_le.mp hc
  -- each branch of the table fixes the count and the least second byte
  unfold leadInfo at hb
  split_ifs at hb with h1 h2 h3 h4 h5 h6 h7 <;>
    simp only [Option.some.injEq, Prod.mk.injEq] at hb <;>
    obtain ⟨rfl, rfl, rfl⟩ := hb <;>
    simp only [Bool.and_eq_true, Bool.or_eq_true, decide_eq_true_eq, beq_iff_eq,
      UInt8.le_iff_toNat_le, UInt8.ext_iff, UInt8.toNat_ofNat] at * <;>
    simp <;> omega

theorem replacement_ne_slash : replacement ≠ '/' := by decide

/-- A sequence of several bytes decodes to a code point of 128 or more: the
    first two bytes give 128 or more when nothing follows, and 2 or more
    before at least one more byte multiplies it by 64. -/
theorem codePoint_ge {acc n : Nat} {rest : List UInt8} {cp used : Nat}
    (hacc : (n = 1 ∧ 128 ≤ acc) ∨ (2 ≤ n ∧ 2 ≤ acc))
    (h : continuation acc (n - 1) rest 0 = .ok (cp, used)) : 128 ≤ cp := by
  have hcp := le_continuation h
  rcases hacc with ⟨rfl, hacc⟩ | ⟨hn, hacc⟩
  · simpa using hcp.trans' (by simpa using hacc)
  · obtain ⟨k, hk⟩ : ∃ k, n - 1 = k + 1 := ⟨n - 2, by omega⟩
    rw [hk, pow_succ, ← mul_assoc] at hcp
    have h64 : 1 ≤ 64 ^ k := Nat.one_le_pow _ _ (by norm_num)
    calc 128 = 2 * 1 * 64 := by norm_num
      _ ≤ acc * 64 ^ k * 64 := by gcongr
      _ ≤ cp := hcp

/-- Lossy decoding makes a `/` only from a `/` byte: a byte below `0x80`
    stands for itself, and a longer sequence stands for a code point of 128
    or more or for the replacement character. -/
theorem slash_mem_of_decodeLossy {bs : List UInt8} (h : '/' ∈ decodeLossy bs) : Path.slash ∈ bs := by
  fun_induction decodeLossy bs with
  | case1 => simp at h
  | case2 b _ =>
    have hb := ofNat_eq_slash (List.mem_singleton.mp h).symm
    simp [Path.slash, UInt8.ext_iff, hb]
  | case3 b _ => exact absurd (List.mem_singleton.mp h).symm replacement_ne_slash
  | case4 b c rest _ ih =>
    rcases List.mem_cons.mp h with h | h
    · have hb := ofNat_eq_slash h.symm
      simp [Path.slash, UInt8.ext_iff, hb]
    · exact List.mem_cons_of_mem _ (ih h)
  | case5 b c rest _ _ ih =>
    rcases List.mem_cons.mp h with h | h
    · exact absurd h.symm replacement_ne_slash
    · exact List.mem_cons_of_mem _ (ih h)
  | case6 b c rest _ n lo hi hlead hc lead cp used hcont ih =>
    rcases List.mem_cons.mp h with h | h
    · have hlo : lo ≤ c := by
        simp only [Bool.and_eq_true, decide_eq_true_eq] at hc
        exact hc.1
      have hcp := codePoint_ge (leadAcc_bound hlead hlo) hcont
      have h47 := ofNat_eq_slash h.symm
      omega
    · exact List.mem_cons_of_mem _ (List.mem_cons_of_mem _ (List.mem_of_mem_drop (ih h)))
  | case7 b c rest _ n lo hi hlead hc lead used hcont ih =>
    rcases List.mem_cons.mp h with h | h
    · exact absurd h.symm replacement_ne_slash
    · exact List.mem_cons_of_mem _ (List.mem_cons_of_mem _ (List.mem_of_mem_drop (ih h)))
  | case8 b c rest _ n lo hi hlead hc ih =>
    rcases List.mem_cons.mp h with h | h
    · exact absurd h.symm replacement_ne_slash
    · exact List.mem_cons_of_mem _ (ih h)

/-- Text decoded from bytes with no `/` has no `/`. -/
theorem slash_not_mem_toText {bs : List UInt8} (h : Path.slash ∉ bs) : '/' ∉ (toText bs).toList := by
  simpa [toText] using fun hm => h (slash_mem_of_decodeLossy hm)

/-- Different texts have different bytes. -/
theorem ofText_injective {s t : String} (h : ofText s = ofText t) : s = t := by
  rw [ofText, ofText, String.toUTF8_eq_toByteArray, String.toUTF8_eq_toByteArray,
    byteArray_toList, byteArray_toList] at h
  exact String.toByteArray_inj.mp (ByteArray.ext (Array.ext' h))

/-- The bytes of a component text are a plain name. -/
theorem plainName_ofText {s : String} (hs : '/' ∉ s.toList) (hne : s ≠ "") (hdot : s ≠ ".")
    (hdots : s ≠ "..") : PlainName (ofText s) := by
  -- the three excluded byte strings are the encodings of the three excluded texts
  have hempty : ofText "" = [] := by rw [ofText_eq_flatMap]; decide
  have hone : ofText "." = [46] := by rw [ofText_eq_flatMap]; decide
  have htwo : ofText ".." = [46, 46] := by rw [ofText_eq_flatMap]; decide
  refine ⟨fun h => hne (ofText_injective (h.trans hempty.symm)),
    fun h => hs ((slash_mem_ofText s).mp h), fun h => hdot (ofText_injective (h.trans hone.symm)),
    fun h => hdots (ofText_injective (h.trans htwo.symm))⟩

end Utf8

namespace Path

/-- What a non-empty piece between slashes reads as. -/
private def pieceName (n : List UInt8) : Option Part :=
  if n == [46] then none else if n == [46, 46] then some Part.up else some (Part.name n)

/-- The components of an absolute path: the root, then what each non-empty
    piece reads as. -/
private theorem parts_of_isAbsolute {p : Path} (h : p.isAbsolute = true) :
    p.parts = .root :: ((p.bytes.splitOn slash).filter (!·.isEmpty)).filterMap pieceName := by
  unfold parts
  simp only [h, if_true]
  split <;> rfl

/-- A piece never reads as the root. -/
private theorem root_not_mem_filterMap (xs : List (List UInt8)) :
    Part.root ∉ xs.filterMap pieceName := by
  simp only [List.mem_filterMap, not_exists, not_and]
  intro x _ hx
  unfold pieceName at hx
  split_ifs at hx <;> simp at hx

/-- A path whose components start with the root is absolute. -/
theorem isAbsolute_of_parts {p : Path} {ps : List Part} (h : p.parts = .root :: ps) :
    p.isAbsolute = true := by
  cases habs : p.isAbsolute
  · -- a relative path starts with `.` or with a piece, never with the root
    have hmem : Part.root ∈ p.parts := by rw [h]; exact List.mem_cons_self
    unfold parts at hmem
    simp only [habs, Bool.false_eq_true, if_false, List.nil_append, List.mem_append] at hmem
    rcases hmem with hlead | hnamed
    · split at hlead <;> simp at hlead
    · exact absurd hnamed (root_not_mem_filterMap _)
  · rfl

/-- Every name among the components of a path is plain. -/
theorem plainName_of_mem_parts {p : Path} {n : List UInt8} (h : Part.name n ∈ p.parts) :
    PlainName n := by
  unfold parts at h
  simp only [List.mem_append] at h
  rcases h with (hroot | hlead) | hnamed
  · split at hroot <;> simp at hroot
  · split at hlead <;> (try split at hlead) <;> simp at hlead
  · obtain ⟨piece, hpiece, hread⟩ := List.mem_filterMap.mp hnamed
    obtain ⟨hsplit, hne⟩ := List.mem_filter.mp hpiece
    split_ifs at hread with h1 h2 <;> simp only [Option.some.injEq, reduceCtorEq] at hread
    cases hread
    refine ⟨by simpa using hne, not_mem_of_mem_splitOn hsplit, fun h => ?_, fun h => ?_⟩ <;> simp_all

/-- Pushing a plain name onto an absolute path adds exactly that component. -/
theorem parts_pushBytes {p : Path} {n : List UInt8} (hp : p.isAbsolute = true) (hn : PlainName n) :
    (p.pushBytes n).parts = p.parts ++ [.name n] := by
  obtain ⟨hne, hslash, hdot, hdots⟩ := hn
  have hpne : p.bytes ≠ [] := by
    intro h; simp [isAbsolute, h] at hp
  have hrel : (⟨n⟩ : Path).isAbsolute = false := by
    cases n with
    | nil => exact absurd rfl hne
    | cons b bs =>
      have hb : b ≠ slash := fun hb => hslash (hb ▸ List.mem_cons_self)
      simpa [isAbsolute] using hb
  -- the joined bytes are some `c`, then a slash, then the name, and `p` splits like `c`
  obtain ⟨c, hbytes, hpieces⟩ : ∃ c : List UInt8, (p.pushBytes n).bytes = c ++ slash :: n ∧
      (p.bytes.splitOn slash).filter (!·.isEmpty) = (c.splitOn slash).filter (!·.isEmpty) := by
    by_cases hlast : p.bytes.getLast? = some slash
    · obtain ⟨c, hc⟩ : ∃ c, p.bytes = c ++ [slash] :=
        ⟨p.bytes.dropLast, (List.dropLast_append_getLast? _ hlast).symm⟩
      refine ⟨c, ?_, ?_⟩
      · simp [pushBytes, join, hrel, hc]
      · rw [hc, List.splitOn_append_cons_self]; simp
    · refine ⟨p.bytes, ?_, rfl⟩
      simp [pushBytes, join, hrel, hpne, hlast]
  have habs : (p.pushBytes n).isAbsolute = true := by
    have hpre : p.bytes <+: (p.pushBytes n).bytes := by
      by_cases hlast : p.bytes.getLast? = some slash
      · simp [pushBytes, join, hrel, hpne, hlast]
      · simp [pushBytes, join, hrel, hpne, hlast]
    obtain ⟨t, ht⟩ := hpre
    simp only [isAbsolute] at hp ⊢
    rw [← ht, List.head?_append_of_ne_nil _ hpne]
    exact hp
  rw [parts_of_isAbsolute habs, parts_of_isAbsolute hp, hbytes, hpieces,
    List.splitOn_append_cons_self, List.splitOn_eq_singleton hslash]
  have hread : pieceName n = some (.name n) := by
    simp [pieceName, hdot, hdots]
  simp [List.filter_append, hne, List.filterMap_append, hread]

/-- Pushing a component given as text is pushing its bytes. -/
theorem push_eq_pushBytes (p : Path) (s : String) : p.push s = p.pushBytes (Utf8.ofText s) := rfl

/-- The path written from the root and the names of a key spells that key. -/
theorem spells_ofParts {k : List (List UInt8)} (hk : ∀ n ∈ k, PlainName n) :
    (ofParts (.root :: k.map Part.name)).Spells k := by
  have hbytes : (ofParts (.root :: k.map Part.name)).bytes = slash :: [slash].intercalate k := by
    simp [ofParts, partBytes, Function.comp_def]
  have habs : (ofParts (.root :: k.map Part.name)).isAbsolute = true := by
    simp [isAbsolute, hbytes]
  unfold Spells
  rw [parts_of_isAbsolute habs, hbytes, List.splitOn_cons_eq_if_modifyHead]
  simp only [beq_self_eq_true, if_true]
  -- the pieces after the leading slash are the names themselves
  have hpieces : (([slash].intercalate k).splitOn slash).filter (!·.isEmpty) = k := by
    cases k with
    | nil => rfl
    | cons n rest =>
      rw [List.splitOn_intercalate slash (fun l hl => (hk l hl).2.1) (List.cons_ne_nil n rest)]
      exact List.filter_eq_self.mpr fun l hl => by simpa using (hk l hl).1
  have hread : ∀ n ∈ k, pieceName n = some (.name n) := fun n hn => by
    simp [pieceName, (hk n hn).2.2.1, (hk n hn).2.2.2]
  simp only [List.filter_cons, List.isEmpty_nil, Bool.not_true, Bool.false_eq_true, if_false,
    hpieces, List.cons.injEq, true_and]
  rw [List.filterMap_congr hread, List.filterMap_eq_map']

/-- The parent of a path spelling a non-empty key spells the key without its
    last name; the root has no parent. -/
theorem Spells.parent_eq {p : Path} {k : List (List UInt8)} (h : p.Spells k) :
    p.parent? = if k = [] then none else some (ofParts (.root :: k.dropLast.map Part.name)) := by
  unfold Path.parent?
  rw [h]
  cases k using List.reverseRecOn with
  | nil => rfl
  | append_singleton k' n =>
    simp [List.map_append, List.reverse_append]

/-- A spelled path is absolute. -/
theorem Spells.isAbsolute {p : Path} {k : List (List UInt8)} (h : p.Spells k) : p.isAbsolute = true :=
  isAbsolute_of_parts h

/-- A path spells one key at most. -/
theorem Spells.unique {p : Path} {k k' : List (List UInt8)} (h : p.Spells k) (h' : p.Spells k') :
    k = k' := by
  unfold Spells at h h'
  rw [h] at h'
  exact List.map_injective_iff.mpr (fun _ _ h => Part.name.inj h) (List.cons.inj h').2

/-- The names of a spelled key are plain. -/
theorem Spells.plain {p : Path} {k : List (List UInt8)} (h : p.Spells k) : ∀ n ∈ k, PlainName n :=
  fun n hn => plainName_of_mem_parts (by rw [h]; simp [hn])

/-- Pushing a plain name onto a spelled path spells the longer key. -/
theorem Spells.pushBytes {p : Path} {k : List (List UInt8)} {n : List UInt8} (h : p.Spells k)
    (hn : PlainName n) : (p.pushBytes n).Spells (k ++ [n]) := by
  have habs := h.isAbsolute
  unfold Spells at h ⊢
  rw [parts_pushBytes habs hn, h]
  simp

/-- Pushing a component text with plain bytes onto a spelled path spells the longer key. -/
theorem Spells.push {p : Path} {k : List (List UInt8)} {s : String} (h : p.Spells k)
    (hs : PlainName (Utf8.ofText s)) : (p.push s).Spells (k ++ [Utf8.ofText s]) :=
  h.pushBytes hs

/-- Pushing plain names one by one onto a spelled path spells the key they extend. -/
theorem Spells.foldl_pushBytes {p : Path} {k : List (List UInt8)} (h : p.Spells k)
    {ns : List (List UInt8)} (hns : ∀ n ∈ ns, PlainName n) :
    (ns.foldl Path.pushBytes p).Spells (k ++ ns) := by
  induction ns generalizing p k with
  | nil => simpa using h
  | cons n ns ih =>
    rw [List.foldl_cons, List.append_cons]
    exact ih (h.pushBytes (hns n List.mem_cons_self)) fun m hm => hns m (List.mem_cons_of_mem n hm)

end Path

/-- Joining component texts with plain bytes onto a spelled root spells the
    root's key followed by their bytes. -/
theorem Path.Spells.joinParts {root : Path} {k : List (List UInt8)} {names : List String}
    (h : root.Spells k) (hs : ∀ s ∈ names, PlainName (Utf8.ofText s)) :
    (Rootfs.joinParts root names).Spells (k ++ names.map Utf8.ofText) := by
  induction names generalizing root k with
  | nil => simpa [Rootfs.joinParts] using h
  | cons s rest ih =>
    have hpush := h.push (hs s (by simp))
    have hrest := ih hpush (fun t ht => hs t (by simp [ht]))
    simpa [Rootfs.joinParts] using hrest

end Rehost
