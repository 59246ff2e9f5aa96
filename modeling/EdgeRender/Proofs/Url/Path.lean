import EdgeRender.Url.Parser
import EdgeRender.Proofs.Text.Parts
import EdgeRender.Proofs.Url.Percent

/-! # Paths are read back

The segments of a path that was read are clean, hold no slash, and are no dots, unless the path
begins with a drive letter. Such segments are read as they stand.
-/
namespace EdgeRender.Url

open EdgeRender.Text EdgeRender.Text.Utf8

/-- A segment as it was cut out of a path, and written. -/
structure IsCut (special : Bool) (segment : List Char) : Prop where
  clean : Clean escapedInPath segment
  noSlash : ∀ c ∈ segment, isSlash special c = false

/-- A segment that is resolved as it stands. -/
structure IsSegment (special : Bool) (segment : List Char) : Prop
    extends IsCut special segment where
  notSingle : isSingleDot segment = false
  notDouble : isDoubleDot segment = false

theorem isCut_nil (special : Bool) : IsCut special [] := ⟨by simp [Clean], by simp⟩

theorem isSegment_nil (special : Bool) : IsSegment special [] := ⟨isCut_nil special, rfl, rfl⟩

variable {special : Bool} {segment : List Char} {done rest segments path : List (List Char)}

/-! ## Resolving -/

section Resolving

variable {P : List Char → Prop}

theorem forall_mem_putSegment (hdone : ∀ s ∈ done, P s)
    (hsegment : isSingleDot segment = false → isDoubleDot segment = false → P segment) :
    ∀ s ∈ putSegment done segment, P s := by
  intro s hs
  unfold putSegment at hs
  split at hs
  · unfold shorten at hs
    split at hs
    · exact hdone s hs
    · exact hdone s (List.dropLast_subset done hs)
  · next hdouble =>
    split at hs
    · exact hdone s hs
    · next hsingle =>
      rcases List.mem_append.mp hs with hfront | hlast
      · exact hdone s hfront
      · obtain rfl : s = segment := by simpa using hlast
        exact hsegment (by simpa using hsingle) (by simpa using hdouble)

theorem forall_mem_putLast (hnil : P []) (hdone : ∀ s ∈ done, P s)
    (hsegment : isSingleDot segment = false → isDoubleDot segment = false → P segment) :
    ∀ s ∈ putLast done segment, P s := by
  intro s hs
  unfold putLast at hs
  split at hs
  · rcases List.mem_append.mp hs with hfront | hlast
    · exact forall_mem_putSegment hdone hsegment s hfront
    · obtain rfl : s = [] := by simpa using hlast
      exact hnil
  · next hdots =>
    rw [Bool.or_eq_true, not_or] at hdots
    rcases List.mem_append.mp hs with hfront | hlast
    · exact hdone s hfront
    · obtain rfl : s = segment := by simpa using hlast
      exact hsegment (by simpa using hdots.2) (by simpa using hdots.1)

/-- What is resolved are segments that are no dots, and an empty one. -/
theorem forall_mem_resolveSegments (hnil : P []) (hdone : ∀ s ∈ done, P s)
    (hrest : ∀ s ∈ rest, isSingleDot s = false → isDoubleDot s = false → P s) :
    ∀ s ∈ resolveSegments done rest, P s := by
  fun_induction resolveSegments done rest with
  | case1 done => exact hdone
  | case2 done segment => exact forall_mem_putLast hnil hdone (hrest segment (by simp))
  | case3 done segment rest hne ih =>
    exact ih (forall_mem_putSegment hdone (hrest segment (by simp)))
      fun s hs => hrest s (by simp [hs])

theorem isSegment_of_mem_resolveSegments (hdone : ∀ s ∈ done, IsSegment special s)
    (hrest : ∀ s ∈ rest, IsCut special s) :
    ∀ s ∈ resolveSegments done rest, IsSegment special s :=
  forall_mem_resolveSegments (isSegment_nil special) hdone fun s hs hsingle hdouble =>
    ⟨hrest s hs, hsingle, hdouble⟩

theorem isCut_of_mem_resolveSegments (hdone : ∀ s ∈ done, IsCut special s)
    (hrest : ∀ s ∈ rest, IsCut special s) : ∀ s ∈ resolveSegments done rest, IsCut special s :=
  forall_mem_resolveSegments (isCut_nil special) hdone fun s hs _ _ => hrest s hs

end Resolving

theorem putLast_ne_nil (done : List (List Char)) (segment : List Char) :
    putLast done segment ≠ [] := by
  unfold putLast
  split <;> simp

theorem resolveSegments_ne_nil (hne : rest ≠ []) : resolveSegments done rest ≠ [] := by
  fun_induction resolveSegments done rest with
  | case1 => contradiction
  | case2 done segment => exact putLast_ne_nil done segment
  | case3 done segment rest hrest ih => exact ih (by simpa using hrest)

theorem putSegment_of_isSegment (h : IsSegment special segment) :
    putSegment done segment = done ++ [segment] := by
  rw [putSegment, if_neg (by simp [h.notDouble]), if_neg (by simp [h.notSingle])]

theorem putLast_of_isSegment (h : IsSegment special segment) :
    putLast done segment = done ++ [segment] := by
  rw [putLast, if_neg (by simp [h.notDouble, h.notSingle])]

/-- Segments without dots are resolved as they stand. -/
theorem resolveSegments_of_isSegment (h : ∀ s ∈ rest, IsSegment special s) :
    resolveSegments done rest = done ++ rest := by
  fun_induction resolveSegments done rest with
  | case1 => simp
  | case2 done segment => exact putLast_of_isSegment (h segment (by simp))
  | case3 done segment rest hne ih =>
    rw [ih fun s hs => h s (by simp [hs]), putSegment_of_isSegment (h segment (by simp))]
    simp

/-! ## The text of a path -/

theorem pathText_eq (hne : segments ≠ []) :
    pathText segments = '/' :: joinWith ['/'] segments := by
  induction segments with
  | nil => contradiction
  | cons segment segments ih =>
    cases segments with
    | nil => simp [pathText, joinWith]
    | cons s segments =>
      have hrest : pathText (s :: segments) = '/' :: joinWith ['/'] (s :: segments) := ih (by simp)
      have hcons : pathText (segment :: s :: segments) =
          '/' :: segment ++ pathText (s :: segments) := rfl
      rw [hcons, hrest]
      simp [joinWith]

/-- A slash of either kind is a slash, and every other character stays. -/
def slashed (special : Bool) (c : Char) : Char := if isSlash special c then '/' else c

theorem segmentsOf_eq (special : Bool) (path : List Char) :
    segmentsOf special path =
      splitAt '/' (if (path.map (slashed special)).head? = some '/' then
        (path.map (slashed special)).drop 1 else path.map (slashed special)) := rfl

/-- The segments are found in the text of their path. -/
theorem segmentsOf_pathText (hne : segments ≠ []) (h : ∀ s ∈ segments, IsCut special s) :
    segmentsOf special (pathText segments) = segments := by
  have hslashed : (joinWith ['/'] segments).map (slashed special) = joinWith ['/'] segments := by
    refine (List.map_congr_left fun c hc => ?_).trans (List.map_id _)
    rcases mem_joinWith hc with rfl | ⟨s, hs, hmem⟩
    · rfl
    · exact if_neg (by simp [(h s hs).noSlash c hmem])
  have hslash : slashed special '/' = '/' := rfl
  rw [segmentsOf_eq, pathText_eq hne, List.map_cons, hslash, hslashed, List.head?_cons, if_pos rfl]
  refine splitAt_joinWith hne fun s hs hmem => ?_
  exact absurd ((h s hs).noSlash '/' hmem) (by simp [isSlash])

/-- Segments that are cut out hold no slash. -/
theorem noSlash_of_mem_segmentsOf {path : List Char} (h : segment ∈ segmentsOf special path) :
    ∀ c ∈ segment, isSlash special c = false := by
  intro c hc
  rw [segmentsOf_eq] at h
  obtain ⟨hmem, hne⟩ := mem_of_mem_splitAt h hc
  have hmap : c ∈ path.map (slashed special) := by
    split at hmem
    · exact List.mem_of_mem_drop hmem
    · exact hmem
  obtain ⟨c', -, hc'⟩ := List.mem_map.mp hmap
  unfold slashed at hc'
  split at hc'
  · exact absurd hc'.symm hne
  · next hslash => exact hc' ▸ by simpa using hslash

theorem segmentsOf_ne_nil (special : Bool) (path : List Char) : segmentsOf special path ≠ [] :=
  splitAt_ne_nil '/' _

/-- What is cut out and written is clean and holds no slash. -/
theorem isCut_percentEncode (h : ∀ c ∈ segment, isSlash special c = false) :
    IsCut special (percentEncode escapedInPath segment) where
  clean := clean_percentEncode (forall_mem_of_all (by decide)) segment
  noSlash := by
    intro c hc
    rcases mem_percentEncode hc with hpercent | ⟨hmem, -⟩
    · have hall : ∀ c ∈ percentChars, ∀ special, isSlash special c = false :=
        forall_mem_of_all (by decide)
      exact hall c hpercent special
    · exact h c hmem

/-! ## Drive letters -/

/-- No ignored character is visible. -/
theorem isIgnored_of_clean (h : Clean escapedInPath segment) :
    ∀ c ∈ segment, isIgnored c = false := by
  intro c hc
  obtain ⟨hascii, hfree⟩ := h c hc
  exact forall_ascii (P := fun c => escapedInPath c = false → isIgnored c = false) (by decide)
    hascii hfree

theorem kept_of_visible {s : List Char} (h : ∀ c ∈ s, isIgnored c = false) : kept s = s :=
  List.filter_eq_self.mpr fun c hc => by simp [h c hc]

theorem dropKept_of_visible {s : List Char} (h : ∀ c ∈ s, isIgnored c = false) (n : Nat) :
    dropKept n s = s.drop n := by
  fun_induction dropKept n s with
  | case1 => rfl
  | case2 => simp
  | case3 n c rest hc ih => simp [h c (by simp)] at hc
  | case4 n c rest hc ih => exact ih fun c' hc' => h c' (by simp [hc'])

theorem breaksBehindDrive_of_visible (h : ∀ c ∈ segment, isIgnored c = false) :
    breaksBehindDrive segment = false := by
  unfold breaksBehindDrive
  split
  · rw [dropKept_of_visible h]
    have hnone : ((segment.drop 2).head?.any isIgnored) = false := by
      cases hhead : (segment.drop 2).head? with
      | none => rfl
      | some c => exact h c (List.mem_of_mem_drop (List.mem_of_mem_head? hhead))
    rw [hnone, Bool.and_false]
  · rfl

/-- Segments are resolved as they stand, if no drive letter is the first one. -/
theorem resolveFileSegments?_of_isSegment (h : ∀ s ∈ rest, IsSegment true s)
    (hdrive : done = [] → ∀ s ∈ rest.head?, isDriveLetter s = false) :
    resolveFileSegments? done rest = some (done ++ rest) := by
  induction rest generalizing done with
  | nil => simp [resolveFileSegments?]
  | cons segment rest ih =>
    have hsegment := h segment (by simp)
    have hvisible := isIgnored_of_clean hsegment.clean
    have hwritten : writtenSegment segment = segment := by
      rw [writtenSegment, kept_of_visible hvisible, percentEncode_of_clean hsegment.clean]
    have hletter : (done.isEmpty && isDriveLetter segment) = false := by
      cases done with
      | nil => simpa using hdrive rfl segment rfl
      | cons => rfl
    rw [resolveFileSegments?, hwritten, hletter, if_neg (by decide),
      breaksBehindDrive_of_visible hvisible, Bool.and_false, if_neg (by decide)]
    split
    · next hempty =>
      rw [putLast_of_isSegment hsegment, List.isEmpty_iff.mp hempty]
    · rw [putSegment_of_isSegment hsegment, ih (fun s hs => h s (by simp [hs])) (by simp)]
      simp

/-- A path that begins with a drive letter has no host in front of it. -/
theorem resolveFileSegments?_of_drive (h : ∀ s ∈ rest, IsCut true s) (hne : rest ≠ [])
    (hdrive : ∀ s ∈ rest.head?, isDriveLetter s = true) : resolveFileSegments? [] rest = none := by
  obtain ⟨segment, rest, rfl⟩ := List.exists_cons_of_ne_nil hne
  have hsegment := h segment (by simp)
  have hwritten : writtenSegment segment = segment := by
    rw [writtenSegment, kept_of_visible (isIgnored_of_clean hsegment.clean),
      percentEncode_of_clean hsegment.clean]
  rw [resolveFileSegments?, hwritten, hdrive segment rfl, List.isEmpty_nil, Bool.and_self,
    if_pos rfl]

/-- Dots do not take a drive letter in front away. -/
theorem head?_putSegment (hdone : done.head? = some segment) (hdrive : isDriveLike segment = true)
    (s : List Char) : (putSegment done s).head? = some segment := by
  obtain ⟨rest, rfl⟩ : ∃ rest, done = segment :: rest := by
    cases done with
    | nil => contradiction
    | cons first rest => exact ⟨rest, by rw [Option.some.inj hdone]⟩
  unfold putSegment
  split
  · unfold shorten
    split
    · rfl
    · next hlast =>
      cases rest with
      | nil => simp [hdrive] at hlast
      | cons => rfl
  · split <;> rfl

theorem head?_resolveSegments (hdone : done.head? = some segment)
    (hdrive : isDriveLike segment = true) (rest : List (List Char)) :
    (resolveSegments done rest).head? = some segment := by
  fun_induction resolveSegments done rest with
  | case1 => exact hdone
  | case2 done s =>
    unfold putLast
    split
    · rw [List.head?_append, head?_putSegment hdone hdrive]
      rfl
    · rw [List.head?_append, hdone]
      rfl
  | case3 done s rest hne ih => exact ih (head?_putSegment hdone hdrive s)

/-- What the segments of a `file` URL are: resolved, unless a drive letter is the first one. -/
structure AreFileSegments (segments : List (List Char)) : Prop where
  cut : ∀ s ∈ segments, IsCut true s
  resolved : (∀ s ∈ segments, IsSegment true s) ∨
    ∃ d, segments.head? = some d ∧ isDriveLetter d = true

theorem areFileSegments_of_isSegment (h : ∀ s ∈ segments, IsSegment true s) :
    AreFileSegments segments :=
  ⟨fun s hs => (h s hs).toIsCut, .inl h⟩

theorem isCut_writtenSegment (h : ∀ c ∈ segment, isSlash special c = false) :
    IsCut special (writtenSegment segment) :=
  isCut_percentEncode fun c hc => h c (List.mem_of_mem_filter hc)

/-- A drive letter that an ignored character parts from the rest of its segment. -/
theorem isDriveLetter_of_breaks (h : breaksBehindDrive segment = true) :
    isDriveLetter ((writtenSegment segment).take 2) = true := by
  unfold breaksBehindDrive at h
  split at h
  · next letter c rest hkept =>
    have halpha : letter.isAlpha = true := (Bool.and_eq_true_iff.mp h).1
    have hascii := toNat_lt_of_isAlpha halpha
    have hfree : escapedInPath letter = false :=
      forall_ascii (P := fun c => c.isAlpha = true → escapedInPath c = false) (by decide)
        hascii halpha
    have hwritten : (writtenSegment segment).take 2 = [letter, ':'] := by
      rw [writtenSegment, hkept, percentEncode_cons hascii hfree,
        percentEncode_cons (by decide) (by decide)]
      rfl
    rw [hwritten]
    simp [isDriveLetter, isDriveLike, halpha]
  · contradiction

theorem areFileSegments_of_broken (hdrive : isDriveLetter (segment.take 2) = true)
    (hsegment : IsCut true segment) (hrest : ∀ s ∈ rest, IsCut true s) :
    AreFileSegments (resolveSegments [segment.take 2, segment.drop 2] rest) := by
  have hlike : isDriveLike (segment.take 2) = true := (Bool.and_eq_true_iff.mp hdrive).2
  refine ⟨isCut_of_mem_resolveSegments (fun s hs => ?_) hrest, .inr ⟨segment.take 2, ?_, hdrive⟩⟩
  · have hsubset : ∀ c ∈ s, c ∈ segment := by
      intro c hc
      rcases (by simpa using hs : _ ∨ _) with rfl | rfl
      · exact List.mem_of_mem_take hc
      · exact List.mem_of_mem_drop hc
    exact ⟨fun c hc => hsegment.clean c (hsubset c hc),
      fun c hc => hsegment.noSlash c (hsubset c hc)⟩
  · exact head?_resolveSegments rfl hlike rest

/-- The segments of a `file` URL are resolved up to a drive letter in front. -/
theorem areFileSegments_of_resolve? (hdone : ∀ s ∈ done, IsSegment true s)
    (hrest : ∀ s ∈ rest, ∀ c ∈ s, isSlash true c = false)
    (h : resolveFileSegments? done rest = some segments) : AreFileSegments segments := by
  fun_induction resolveFileSegments? done rest with
  | case1 done =>
    obtain rfl := Option.some.inj h
    exact areFileSegments_of_isSegment hdone
  | case2 => contradiction
  | case3 done segment rest written hletter hbreaks =>
    obtain rfl := Option.some.inj h
    refine areFileSegments_of_broken
      (isDriveLetter_of_breaks (Bool.and_eq_true_iff.mp hbreaks).2)
      (isCut_writtenSegment (hrest segment (by simp))) fun s hs => ?_
    obtain ⟨s', hs', rfl⟩ := List.mem_map.mp hs
    exact isCut_writtenSegment (hrest s' (by simp [hs']))
  | case4 done segment rest written hletter hbreaks hlast =>
    obtain rfl := Option.some.inj h
    have hcut := isCut_writtenSegment (hrest segment (by simp))
    exact areFileSegments_of_isSegment
      (forall_mem_putLast (isSegment_nil true) hdone
        fun hsingle hdouble => ⟨hcut, hsingle, hdouble⟩)
  | case5 done segment rest written hletter hbreaks hlast ih =>
    have hcut := isCut_writtenSegment (hrest segment (by simp))
    exact ih
      (forall_mem_putSegment hdone fun hsingle hdouble => ⟨hcut, hsingle, hdouble⟩)
      (fun s hs => hrest s (by simp [hs])) h

theorem resolveFileSegments?_ne_nil (hne : rest ≠ [])
    (h : resolveFileSegments? done rest = some segments) : segments ≠ [] := by
  fun_induction resolveFileSegments? done rest with
  | case1 => contradiction
  | case2 => contradiction
  | case3 done segment rest written hletter hbreaks =>
    obtain rfl := Option.some.inj h
    have hdrive := isDriveLetter_of_breaks (Bool.and_eq_true_iff.mp hbreaks).2
    have hfirst : [written.take 2, written.drop 2].head? = some (written.take 2) := rfl
    have hhead := head?_resolveSegments hfirst (Bool.and_eq_true_iff.mp hdrive).2
      (rest.map writtenSegment)
    intro hnil
    rw [hnil] at hhead
    contradiction
  | case4 done segment rest written hletter hbreaks hlast =>
    obtain rfl := Option.some.inj h
    exact putLast_ne_nil done written
  | case5 done segment rest written hletter hbreaks hlast ih => exact ih (by simpa using hlast) h

/-! ## Empty segments in front -/

theorem mem_of_mem_dropEmptyAhead (h : segment ∈ dropEmptyAhead segments) : segment ∈ segments := by
  fun_induction dropEmptyAhead segments with
  | case1 s rest ih => exact List.mem_cons_of_mem [] (ih h)
  | case2 => exact h

theorem dropEmptyAhead_ne_nil (hne : segments ≠ []) : dropEmptyAhead segments ≠ [] := by
  fun_induction dropEmptyAhead segments with
  | case1 s rest ih => exact ih (by simp)
  | case2 => exact hne

/-- Empty segments are dropped at once. -/
theorem dropEmptyAhead_idem (segments : List (List Char)) :
    dropEmptyAhead (dropEmptyAhead segments) = dropEmptyAhead segments := by
  fun_induction dropEmptyAhead segments with
  | case1 s rest ih => exact ih
  | case2 segments hne =>
    unfold dropEmptyAhead
    split
    · exact absurd rfl (hne _ _)
    · rfl

theorem AreFileSegments.dropEmptyAhead (h : AreFileSegments segments) :
    AreFileSegments (dropEmptyAhead segments) := by
  refine ⟨fun s hs => h.cut s (mem_of_mem_dropEmptyAhead hs), ?_⟩
  rcases h.resolved with hresolved | ⟨d, hhead, hdrive⟩
  · exact .inl fun s hs => hresolved s (mem_of_mem_dropEmptyAhead hs)
  · have hkeep : Url.dropEmptyAhead segments = segments := by
      unfold Url.dropEmptyAhead
      split
      · obtain rfl : d = [] := by simpa using hhead.symm
        contradiction
      · rfl
    exact .inr ⟨d, by rw [hkeep, hhead], hdrive⟩

end EdgeRender.Url
