import SqlPipe.Proofs.Url.Rendering

/-!
# Passwords in URLs

A password without the signs of an authority has its own place in the URL that is read, and in none
of the other parts: with another password the same URL is read, up to the password, or reading fails
in the same way.  With the password hidden the two are one URL.
-/

namespace SqlPipe.Url

def isAuthoritySign (c : Char) : Bool :=
  isControlOrBlank c || "/?#\\:@".toList.contains c

/-- A name or a password that means itself in an authority. -/
structure IsWord (text : List Char) : Prop where
  nonempty : text ≠ []
  quiet : ∀ c ∈ text, isAuthoritySign c = false

variable {scheme user password text rest : List Char} {kind : SchemeKind}

theorem IsWord.visible (htext : IsWord text) : Visible text :=
  fun c hc => (Bool.or_eq_false_iff.mp (htext.quiet c hc)).1

theorem IsWord.not_mem (htext : IsWord text) {c : Char} (hc : isAuthoritySign c = true) :
    c ∉ text := by
  intro hmem
  rw [htext.quiet c hmem] at hc
  cases hc

theorem endsAuthority_of_not_sign {c : Char} (hc : isAuthoritySign c = false) (special : Bool) :
    endsAuthority special c = false := by
  have hsigns : ∀ d ∈ ['/', '?', '#', '\\'], isAuthoritySign d = true :=
    List.all_eq_true.mp (by decide)
  have hsign : ∀ d ∈ ['/', '?', '#', '\\'], c ≠ d := by
    rintro d hd rfl
    rw [hsigns c hd] at hc
    cases hc
  simp only [List.forall_mem_cons] at hsign
  obtain ⟨hslash, hquestion, hhash, hback, -⟩ := hsign
  simp [endsAuthority, hslash, hquestion, hhash, hback]

theorem isWord_percentEncode (hsome : text ≠ []) : IsWord (percentEncode userinfoSet text) :=
  ⟨fun hnil => hsome (percentEncode_eq_nil_iff.mp hnil),
    (encoded_percentEncode sparesPercent_userinfoSet text).forall_eq_false (by decide)⟩

def credentials (user password : List Char) : List Char :=
  user ++ ':' :: password ++ ['@']

theorem visible_credentials (huser : IsWord user) (hpassword : IsWord password) :
    Visible (credentials user password) := by
  unfold Visible credentials
  rw [List.forall_mem_append, List.forall_mem_append, List.forall_mem_cons]
  exact ⟨⟨huser.visible, by decide, hpassword.visible⟩, List.forall_mem_singleton.mpr (by decide)⟩

/-! ## Reading -/

def withPassword (password : List Char) (url : Url) : Url :=
  { url with authority := url.authority.map fun authority =>
      { authority with password := some (String.ofList password) } }

/-- A URL of a scheme with a user. -/
structure HasUser (scheme user : List Char) (url : Url) : Prop where
  scheme : url.scheme = String.ofList scheme
  username : ∃ authority, url.authority = some authority ∧
    authority.username = String.ofList (percentEncode userinfoSet user)

/-- The password of a user is all that stands behind the first colon. -/
theorem readUserinfo_credentials
    (huser : IsWord user) (hpassword : password ≠ []) (more : List Char) :
    readUserinfo (user ++ ':' :: password ++ more) =
      (String.ofList (percentEncode userinfoSet user),
        some (String.ofList (percentEncode userinfoSet (password ++ more)))) := by
  have hspan : (user ++ ':' :: (password ++ more)).span (· != ':') =
      (user, ':' :: (password ++ more)) := by
    refine Text.span_append (fun c hc => ?_) (by simp)
    simpa using fun heq : c = ':' => huser.not_mem (by decide) (heq ▸ hc)
  rw [List.append_assoc, List.cons_append, readUserinfo, hspan]
  simp [hpassword]

theorem authorityText_credentials
    (huser : IsWord user) (hpassword : IsWord password) (kind : SchemeKind) (rest : List Char) :
    authorityText kind (credentials user password ++ rest) =
        user ++ ':' :: password ++ '@' :: authorityText kind rest ∧
      behindAuthority kind (credentials user password ++ rest) = behindAuthority kind rest := by
  have hinside : ∀ c ∈ credentials user password, (!endsAuthority kind.isSpecial c) = true := by
    have hword : ∀ text, IsWord text → ∀ c ∈ text, (!endsAuthority kind.isSpecial c) = true :=
      fun text htext c hc => by simp [endsAuthority_of_not_sign (htext.quiet c hc)]
    unfold credentials
    rw [List.forall_mem_append, List.forall_mem_append, List.forall_mem_cons,
      List.forall_mem_singleton]
    exact ⟨⟨hword user huser, by simp [endsAuthority], hword password hpassword⟩,
      by simp [endsAuthority]⟩
  constructor
  · rw [authorityText, List.takeWhile_append_of_pos hinside, credentials, List.append_assoc,
      List.singleton_append]
    rfl
  · rw [behindAuthority, List.dropWhile_append_of_pos hinside]
    rfl

/-- The password of an authority is read into its place and decides nothing else. -/
theorem readAuthority_credentials (huser : IsWord user) (kind : SchemeKind) (rest : List Char) :
    ∃ (more : List Char) (outcome : Except Fault (Authority × List Char)),
      (∀ password, IsWord password →
        readAuthority kind (credentials user password ++ rest) =
          outcome.map fun found =>
            ({ found.1 with
              password := some (String.ofList (percentEncode userinfoSet (password ++ more))) },
              found.2)) ∧
      ∀ found, outcome = .ok found →
        found.1.username = String.ofList (percentEncode userinfoSet user) := by
  -- what precedes the last `@` is the user, the password and `more`, whatever the password is
  obtain ⟨more, near, hlast⟩ := Text.exists_splitAtLast? '@' (authorityText kind rest)
  refine ⟨more, (readHost kind (near ++ behindAuthority kind rest)).bind fun found =>
    if found.1 = .name "" then .error .emptyHost
    else
      .ok (⟨String.ofList (percentEncode userinfoSet user), none, found.1, found.2.1⟩, found.2.2),
    fun password hpassword => ?_, fun found hfound => ?_⟩
  · obtain ⟨hfront, hbehind⟩ := authorityText_credentials huser hpassword kind rest
    have hsplit : Text.splitAtLast? '@' (authorityText kind (credentials user password ++ rest)) =
        some (user ++ ':' :: password ++ more, near) := by
      rw [hfront, hlast]
    have hsome : ¬(user ++ ':' :: password ++ more = [] ∧ near = [] ∧
        behindAuthority kind (credentials user password ++ rest) ≠ []) := fun hempty => by
      simp at hempty
    rw [readAuthority_of_some hsplit, if_neg hsome, hbehind,
      readUserinfo_credentials huser hpassword.nonempty]
    cases readHost kind (near ++ behindAuthority kind rest) with
    | error fault => rfl
    | ok found =>
        by_cases hname : found.1 = .name ""
        · simp [Except.bind, Except.map, hname]
        · simp [Except.bind, Except.map, hname]
  · obtain ⟨host, -, hfound⟩ := exists_of_bind_eq_ok hfound
    split at hfound
    next => cases hfound
    next =>
      cases hfound
      rfl

theorem assemble_withPassword
    (scheme : List Char) (kind : SchemeKind) (authority : Authority) (path : Path)
    (behind : List Char) (password : List Char) :
    assemble scheme kind (some { authority with password := some (String.ofList password) }) path
        behind =
      (assemble scheme kind (some authority) path behind).withPassword password := rfl

theorem readWithAuthority_eq (scheme : List Char) (kind : SchemeKind) (text : List Char) :
    readWithAuthority scheme kind text =
      (readAuthority kind text).map fun found =>
        assemble scheme kind (some found.1) (pathBehind kind (splitPath found.2).1)
          (splitPath found.2).2 := by
  rw [readWithAuthority]
  cases readAuthority kind text <;> rfl

/-- A URL with a password is read as a URL without one, or fails as it does without one; the
password is then put into its place. -/
theorem parse_credentials
    (hscheme : IsScheme scheme) (hkind : SchemeKind.of scheme ≠ .file) (huser : IsWord user)
    (rest : List Char) :
    ∃ (more : List Char) (outcome : Except Fault Url),
      (∀ password, IsWord password →
        parse (String.ofList (addressText scheme (credentials user password ++ rest))) =
          outcome.map (withPassword (percentEncode userinfoSet (password ++ more)))) ∧
      ∀ url, outcome = .ok url → url.HasUser scheme user := by
  obtain ⟨more, outcome, hread, hname⟩ :=
    readAuthority_credentials huser (SchemeKind.of scheme) (cleanedBehind rest)
  refine ⟨more, outcome.map fun found =>
    assemble scheme (SchemeKind.of scheme) (some found.1)
      (pathBehind (SchemeKind.of scheme) (splitPath found.2).1) (splitPath found.2).2,
    fun password hpassword => ?_, fun url hurl => ?_⟩
  · have hcleaned : cleanedBehind (credentials user password ++ rest) =
        credentials user password ++ cleanedBehind rest :=
      cleanedBehind_append (by simp [credentials]) (visible_credentials huser hpassword) rest
    -- a user begins with no slash, so none is taken for one in front of the authority
    have hslashes : (credentials user password ++ cleanedBehind rest).dropWhile
        (fun c => c == '/' || c == '\\') = credentials user password ++ cleanedBehind rest := by
      obtain ⟨c, others, rfl⟩ := List.exists_cons_of_ne_nil huser.nonempty
      have hc : (c == '/' || c == '\\') = false := by
        have hsign := endsAuthority_of_not_sign (huser.quiet c List.mem_cons_self) true
        simp_all [endsAuthority]
      rw [credentials, List.cons_append, List.cons_append, List.cons_append,
        List.dropWhile_cons_of_neg (by simp [hc])]
    have hslashed : readSlashed scheme (credentials user password ++ cleanedBehind rest) =
        readWithAuthority scheme (SchemeKind.of scheme)
          (credentials user password ++ cleanedBehind rest) := by
      unfold readSlashed
      rw [hslashes]
      split
      next hother => rw [hother]
      next => rfl
    rw [hscheme.parse_addressText hkind, hcleaned, hslashed, readWithAuthority_eq,
      hread password hpassword]
    cases outcome with
    | error fault => rfl
    | ok found => simp only [Except.map, assemble_withPassword]
  · obtain ⟨found, hfound, rfl⟩ := exists_of_map_eq_ok hurl
    exact ⟨rfl, found.1, rfl, hname found hfound⟩

/-! ## Hiding -/

theorem masked_withPassword (url : Url) (password : List Char) :
    (url.withPassword password).masked = url.withPassword "***".toList := by
  rw [withPassword, masked, withPassword]
  cases url.authority <;> rfl

/-- The written form of a URL is made of the same parts around any password. -/
theorem HasUser.exists_render {url : Url} (hurl : url.HasUser scheme user) :
    ∃ behind, ∀ password, (url.withPassword password).render =
      String.ofList (addressText scheme
        (credentials (percentEncode userinfoSet user) password ++ behind)) := by
  obtain ⟨authority, hauthority, husername⟩ := hurl.username
  refine ⟨authority.host.render.toList ++ portText authority.port ++ (url.path.render.toList ++
    (behindSign '?' url.query ++ behindSign '#' url.fragment)), fun password => ?_⟩
  have hsome : (url.withPassword password).authority =
      some { authority with password := some (String.ofList password) } := by
    rw [withPassword, hauthority]
    rfl
  have huser : ({ authority with password := some (String.ofList password) } :
      Authority).renderUser.toList = credentials (percentEncode userinfoSet user) password := by
    simp [Authority.renderUser, credentials, husername]
  have hscheme : (url.withPassword password).scheme.toList = scheme := by
    rw [withPassword, hurl.scheme, String.toList_ofList]
  rw [← String.ofList_toList (s := (url.withPassword password).render), toList_render hsome,
    toList_render_authority, huser, hscheme]
  simp only [List.append_assoc]
  rfl

end SqlPipe.Url
