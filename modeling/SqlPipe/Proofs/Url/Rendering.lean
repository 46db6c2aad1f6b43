import SqlPipe.Proofs.Url.Authorities

/-!
# Written URLs read back

A URL with an authority and with a scheme that is not special is read from its written form part by
part.  The parts that were read hold only what may stand at their places, and no step of a path is
left in them.
-/

namespace SqlPipe.Url

variable {scheme text rest : List Char}

/-! ## Paths -/

/-- A segment as it is read: it stands for itself, and for no step. -/
structure IsSegment (part : String) : Prop where
  encoded : Encoded pathSet part.toList
  slash : '/' ∉ part.toList
  here : isHere part = false
  up : isUp part = false

theorem isSegment_empty : IsSegment "" :=
  ⟨List.forall_mem_nil _, List.not_mem_nil, by decide +kernel, by decide +kernel⟩

theorem mem_of_mem_stepUp {passed : List String} {part : String}
    (hpart : part ∈ stepUp .other passed) : part ∈ passed := by
  unfold stepUp at hpart
  split at hpart
  next => simp at hpart
  next => exact List.mem_of_mem_drop hpart

theorem isSegment_of_followSegments
    {passed parts : List String} (hpassed : ∀ part ∈ passed, IsSegment part)
    (hparts : ∀ part ∈ parts, Encoded pathSet part.toList ∧ '/' ∉ part.toList) :
    ∀ part ∈ followSegments .other passed parts, IsSegment part := by
  -- a step only drops segments or ends in an empty one, so those passed stay segments
  induction parts generalizing passed with
  | nil => exact fun part hpart => hpassed part (List.mem_reverse.mp hpart)
  | cons first others ih =>
      obtain ⟨⟨hencoded, hslash⟩, hothers⟩ := List.forall_mem_cons.mp hparts
      have hending : ∀ part ∈ (if others.isEmpty then [""] else []), IsSegment part := by
        intro part hpart
        split at hpart
        next => exact List.mem_singleton.mp hpart ▸ isSegment_empty
        next => cases hpart
      rw [followSegments]
      split
      next =>
        refine ih (List.forall_mem_append.mpr ⟨hending, fun part hpart => hpassed part ?_⟩) hothers
        exact mem_of_mem_stepUp hpart
      next hup =>
        split
        next => exact ih (List.forall_mem_append.mpr ⟨hending, hpassed⟩) hothers
        next hhere =>
          refine ih (List.forall_mem_cons.mpr ⟨⟨hencoded, hslash, ?_, ?_⟩, hpassed⟩) hothers
          · simpa using hhere
          · simpa using hup

theorem followSegments_of_segments
    {parts : List String} (hparts : ∀ part ∈ parts, IsSegment part) (passed : List String) :
    followSegments .other passed parts = passed.reverse ++ parts := by
  induction parts generalizing passed with
  | nil => simp [followSegments]
  | cons first others ih =>
      obtain ⟨hfirst, hothers⟩ := List.forall_mem_cons.mp hparts
      rw [followSegments, hfirst.up, hfirst.here]
      simp only [Bool.false_eq_true, if_false]
      rw [ih hothers]
      simp [joinSegment]

theorem isSegment_of_readSegments (text : List Char) :
    ∀ part ∈ readSegments .other text, IsSegment part := by
  refine isSegment_of_followSegments (List.forall_mem_nil _) fun part hpart => ?_
  obtain ⟨segment, hsegment, rfl⟩ := List.mem_map.mp hpart
  rw [String.toList_ofList]
  refine ⟨encoded_percentEncode sparesPercent_pathSet segment, fun hslash => ?_⟩
  rcases mem_percentEncode hslash with ⟨hmem, -⟩ | hsign
  · exact Text.not_mem_of_mem_splitAll hsegment hmem
  · exact absurd hsign (by decide)

theorem readSegments_joinWith
    {parts : List String} (hsome : parts ≠ []) (hparts : ∀ part ∈ parts, IsSegment part) :
    readSegments .other (Text.joinWith ['/'] (parts.map String.toList)) = parts := by
  have hsplit : Text.splitAll '/' (Text.joinWith ['/'] (parts.map String.toList)) =
      parts.map String.toList := by
    refine Text.splitAll_joinWith (fun segment hsegment => ?_) (by simpa using hsome)
    obtain ⟨part, hpart, rfl⟩ := List.mem_map.mp hsegment
    exact (hparts part hpart).slash
  have hencoded : (parts.map String.toList).map
      (fun part => String.ofList (percentEncode pathSet part)) = parts := by
    rw [List.map_map]
    refine (List.map_congr_left fun part hpart => ?_).trans (List.map_id parts)
    rw [Function.comp_apply, percentEncode_of_encoded (hparts part hpart).encoded,
      String.ofList_toList, id]
  rw [readSegments]
  simp only [SchemeKind.isSpecial, Bool.false_eq_true, if_false]
  rw [hsplit, hencoded, followSegments_of_segments hparts, List.reverse_nil, List.nil_append]
  exact fun heq => SchemeKind.noConfusion heq

theorem toList_render_segments (parts : List String) :
    (Path.segments parts).render.toList = parts.flatMap fun part => '/' :: part.toList := by
  rw [Path.render, String.toList_join, List.flatMap_map]
  congr 1
  funext part
  rw [String.toList_append]
  rfl

theorem flatMap_slash {parts : List String} (hsome : parts ≠ []) :
    (parts.flatMap fun part => '/' :: part.toList) =
      '/' :: Text.joinWith ['/'] (parts.map String.toList) := by
  induction parts with
  | nil => exact absurd rfl hsome
  | cons first others ih =>
      cases others with
      | nil => simp [Text.joinWith]
      | cons second others =>
          rw [List.flatMap_cons, ih (List.cons_ne_nil _ _)]
          simp [Text.joinWith, List.intercalate_cons_cons]

theorem pathBehind_render {parts : List String} (hparts : ∀ part ∈ parts, IsSegment part) :
    pathBehind .other (Path.segments parts).render.toList = .segments parts := by
  rw [toList_render_segments]
  by_cases hsome : parts = []
  · rw [hsome]
    rfl
  · rw [flatMap_slash hsome, pathBehind, if_pos (by decide), readSegments_joinWith hsome hparts]

theorem signs_render_segments {parts : List String} (hparts : ∀ part ∈ parts, IsSegment part) :
    ∀ c ∈ (Path.segments parts).render.toList,
      (c == '?' || c == '#' || isControlOrBlank c) = false := by
  have hsigns : ∀ part, IsSegment part → ∀ c ∈ part.toList,
      (c == '?' || c == '#' || isControlOrBlank c) = false :=
    fun part hpart => hpart.encoded.forall_eq_false (by decide)
  intro c hc
  rw [toList_render_segments] at hc
  obtain ⟨part, hpart, hmem⟩ := List.mem_flatMap.mp hc
  rcases List.mem_cons.mp hmem with rfl | hinside
  · decide
  · exact hsigns part (hparts part hpart) c hinside

/-! ## Queries and fragments -/

def behindSign (sign : Char) : Option String → List Char
  | some part => sign :: part.toList
  | none => []

/-- The part behind a sign, with the characters of a set in percent form. -/
def partBehind (set : Char → Bool) : List Char → Option String
  | _ :: part => some (String.ofList (percentEncode set part))
  | [] => none

/-- A part that holds only what may stand at its place. -/
def EncodedPart (set : Char → Bool) (part : Option String) : Prop :=
  ∀ text ∈ part, Encoded set text.toList

variable {set : Char → Bool} {part : Option String}

theorem partBehind_behindSign (hpart : EncodedPart set part) (sign : Char) :
    partBehind set (behindSign sign part) = part := by
  cases part with
  | none => rfl
  | some text =>
      rw [behindSign, partBehind, percentEncode_of_encoded (hpart text rfl), String.ofList_toList]

theorem encodedPart_partBehind (hset : SparesPercent set) (text : List Char) :
    EncodedPart set (partBehind set text) := by
  cases text with
  | nil => exact fun _ hnone => nomatch hnone
  | cons sign text =>
      rintro _ ⟨⟩
      rw [String.toList_ofList]
      exact encoded_percentEncode hset text

theorem EncodedPart.forall_eq_false
    (hpart : EncodedPart set part) {kind : Char → Bool}
    (hkind : ∀ code < 0x80, set (Char.ofNat code) = false → kind (Char.ofNat code) = false)
    {sign : Char} (hsign : kind sign = false) : ∀ c ∈ behindSign sign part, kind c = false := by
  cases part with
  | none => exact List.forall_mem_nil _
  | some text =>
      exact List.forall_mem_cons.mpr ⟨hsign, (hpart text rfl).forall_eq_false hkind⟩

theorem readQuery_other (text : List Char) :
    readQuery .other text =
      (partBehind querySet (text.span (· != '#')).1,
        partBehind fragmentSet (text.span (· != '#')).2) := by
  rw [readQuery]
  rfl

theorem readQuery_behindSign
    {query fragment : Option String} (hquery : EncodedPart querySet query)
    (hfragment : EncodedPart fragmentSet fragment) :
    readQuery .other (behindSign '?' query ++ behindSign '#' fragment) = (query, fragment) := by
  have hspan : (behindSign '?' query ++ behindSign '#' fragment).span (· != '#') =
      (behindSign '?' query, behindSign '#' fragment) := by
    apply Text.span_append
    · have hhash : ∀ c ∈ behindSign '?' query, (c == '#') = false :=
        hquery.forall_eq_false (by decide) (by decide)
      exact fun c hc => by simpa [bne] using hhash c hc
    · cases fragment <;> simp [behindSign]
  rw [readQuery_other, hspan, partBehind_behindSign hquery, partBehind_behindSign hfragment]

/-! ## URLs -/

/-- A URL with an authority as it is read where the scheme is not special. -/
structure Plain (url : Url) : Prop where
  authority : ∃ authority, url.authority = some authority ∧ authority.Plain
  path : ∃ parts, url.path = .segments parts ∧ ∀ part ∈ parts, IsSegment part
  query : EncodedPart querySet url.query
  fragment : EncodedPart fragmentSet url.fragment

theorem isSegment_of_pathBehind (text : List Char) :
    ∃ parts, pathBehind .other text = .segments parts ∧ ∀ part ∈ parts, IsSegment part := by
  unfold pathBehind
  split
  next => exact ⟨[], rfl, List.forall_mem_nil _⟩
  next => split <;> exact ⟨_, rfl, isSegment_of_readSegments _⟩

theorem plain_of_readWithAuthority
    {url : Url} (hread : readWithAuthority scheme .other text = .ok url) :
    url.Plain ∧ url.scheme = String.ofList scheme := by
  obtain ⟨found, hauthority, heq⟩ := exists_of_bind_eq_ok hread
  cases heq
  have hplain := plain_of_readAuthority hauthority
  refine ⟨⟨⟨found.1, rfl, hplain⟩, isSegment_of_pathBehind _, ?_, ?_⟩, rfl⟩
  · rw [assemble, readQuery_other]
    exact encodedPart_partBehind sparesPercent_querySet _
  · rw [assemble, readQuery_other]
    exact encodedPart_partBehind sparesPercent_fragmentSet _

theorem toList_renderPart (sign : Char) (part : Option String) :
    (renderPart (String.singleton sign) part).toList = behindSign sign part := by
  cases part with
  | none => rfl
  | some text =>
      rw [renderPart, String.toList_append, String.toList_singleton, List.singleton_append,
        behindSign]

theorem toList_render
    {url : Url} {authority : Authority} (hauthority : url.authority = some authority) :
    url.render.toList =
      addressText url.scheme.toList (authority.render.toList ++ (url.path.render.toList ++
        (behindSign '?' url.query ++ behindSign '#' url.fragment))) := by
  rw [← toList_renderPart, ← toList_renderPart, render, hauthority, addressText]
  simp only [String.toList_append, List.append_assoc]
  rfl

theorem Plain.visible
    {url : Url} (hurl : url.Plain) {authority : Authority}
    (hauthority : url.authority = some authority) :
    Visible (authority.render.toList ++ (url.path.render.toList ++
      (behindSign '?' url.query ++ behindSign '#' url.fragment))) := by
  obtain ⟨_, hsome, hplain⟩ := hurl.authority
  obtain rfl := Option.some.inj (hauthority.symm.trans hsome)
  obtain ⟨parts, hpath, hparts⟩ := hurl.path
  have hquery : Visible (behindSign '?' url.query) :=
    hurl.query.forall_eq_false (by decide) (by decide)
  have hfragment : Visible (behindSign '#' url.fragment) :=
    hurl.fragment.forall_eq_false (by decide) (by decide)
  refine visible_append.mpr ⟨fun c hc => ?_, visible_append.mpr ⟨fun c hc => ?_,
    visible_append.mpr ⟨hquery, hfragment⟩⟩⟩
  · exact (Bool.or_eq_false_iff.mp (hplain.signs c hc)).2
  · rw [hpath] at hc
    exact (Bool.or_eq_false_iff.mp (signs_render_segments hparts c hc)).2

theorem splitPath_render
    {parts : List String} (hparts : ∀ part ∈ parts, IsSegment part)
    (query fragment : Option String) :
    splitPath ((Path.segments parts).render.toList ++
        (behindSign '?' query ++ behindSign '#' fragment)) =
      ((Path.segments parts).render.toList, behindSign '?' query ++ behindSign '#' fragment) := by
  refine Text.span_append (fun c hc => ?_) ?_
  · have hsigns := signs_render_segments hparts c hc
    simp_all
  · cases query <;> cases fragment <;> simp [behindSign]

theorem endsAuthority_path (parts : List String) (query fragment : Option String) :
    EndsAuthority ((Path.segments parts).render.toList ++
      (behindSign '?' query ++ behindSign '#' fragment)) := by
  rw [toList_render_segments]
  cases parts <;> cases query <;> cases fragment <;> simp [EndsAuthority, behindSign, endsAuthority]

theorem parse_render
    {url : Url} (hscheme : IsScheme url.scheme.toList)
    (hkind : SchemeKind.of url.scheme.toList = .other) (hurl : url.Plain) :
    parse url.render = .ok url := by
  obtain ⟨authority, hauthority, hplain⟩ := hurl.authority
  obtain ⟨parts, hpath, hparts⟩ := hurl.path
  have hread := readAuthority_render hplain (endsAuthority_path parts url.query url.fragment)
  rw [← String.ofList_toList (s := url.render), toList_render hauthority,
    hscheme.parse_addressText (by simp [hkind]), cleanedBehind_of_visible (hurl.visible hauthority),
    readSlashed, hkind]
  dsimp only
  rw [readWithAuthority, hpath, hread]
  simp only [bind, Except.bind, pure, Except.pure, splitPath_render hparts,
    pathBehind_render hparts, assemble, readQuery_behindSign hurl.query hurl.fragment,
    String.ofList_toList]
  rw [← hpath, ← hauthority]

end SqlPipe.Url
