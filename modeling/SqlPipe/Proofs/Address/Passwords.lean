import SqlPipe.Proofs.Address.Servers
import SqlPipe.Proofs.Url.Secrets
import SqlPipe.Proofs.Text.Space

/-!
# Passwords of addresses

Two addresses that differ in their passwords only are both refused, with one wording, or both read,
and then they are shown as one text.  So neither a report nor a failure tells anything of a
password.
-/

namespace SqlPipe

open Url (IsScheme IsWord addressText credentials)

variable {scheme user password rest : List Char}

/-! ## Texts that are shown -/

/-- What is shown of a text with a password is shown for any password. -/
theorem exists_maskCredentials
    (hscheme : IsScheme scheme) (hkind : Url.SchemeKind.of scheme ≠ .file) (huser : IsWord user)
    (rest : List Char) :
    ∃ shown, ∀ password, IsWord password →
      maskCredentials (String.ofList (addressText scheme (credentials user password ++ rest))) =
        shown := by
  obtain ⟨more, outcome, hread, -⟩ := Url.parse_credentials hscheme hkind huser rest
  cases outcome with
  | error fault =>
      refine ⟨"[invalid-url]", fun password hpassword => ?_⟩
      rw [maskCredentials, hread password hpassword]
      rfl
  | ok url =>
      refine ⟨(url.withPassword "***".toList).render, fun password hpassword => ?_⟩
      rw [maskCredentials, hread password hpassword]
      exact congrArg Url.render (url.masked_withPassword _)

/-- What is shown of a URL with a password is shown for any password. -/
theorem exists_maskCredentials_render
    (hscheme : IsScheme scheme) (hkind : Url.SchemeKind.of scheme ≠ .file) (huser : IsWord user)
    {url : Url} (hurl : url.HasUser scheme user) :
    ∃ shown, ∀ password, IsWord password →
      maskCredentials (url.withPassword password).render = shown := by
  obtain ⟨behind, hrender⟩ := hurl.exists_render
  obtain ⟨shown, hshown⟩ := exists_maskCredentials hscheme hkind
    (Url.isWord_percentEncode huser.nonempty) behind
  exact ⟨shown, fun password hpassword => hrender password ▸ hshown password hpassword⟩

theorem isWord_written (hpassword : IsWord password) (more : List Char) :
    IsWord (Url.percentEncode Url.userinfoSet (password ++ more)) :=
  Url.isWord_percentEncode (List.append_ne_nil_of_left_ne_nil hpassword.nonempty more)

/-- A text with a password is read as a URL that is shown for any password, or fails for any. -/
theorem exists_shown
    (hscheme : IsScheme scheme) (hkind : Url.SchemeKind.of scheme ≠ .file) (huser : IsWord user)
    (rest : List Char) :
    ∃ outcome : Except Url.Fault String, ∀ password, IsWord password →
      (Url.parse (String.ofList (addressText scheme (credentials user password ++ rest)))).map
        (fun url => maskCredentials url.render) = outcome := by
  obtain ⟨more, outcome, hread, hnamed⟩ := Url.parse_credentials hscheme hkind huser rest
  cases outcome with
  | error fault =>
      refine ⟨.error fault, fun password hpassword => ?_⟩
      rw [hread password hpassword]
      rfl
  | ok url =>
      obtain ⟨shown, hshown⟩ := exists_maskCredentials_render hscheme hkind huser (hnamed url rfl)
      refine ⟨.ok shown, fun password hpassword => ?_⟩
      rw [hread password hpassword]
      exact congrArg Except.ok (hshown _ (isWord_written hpassword more))

/-- A name or a password without a sign that has a meaning in an address. -/
structure IsCredential (text : List Char) : Prop extends IsWord text where
  bracket : '(' ∉ text

/-- Letters, digits and the signs that need no percent form make a name or a password. -/
theorem isCredential_of_unreserved
    {text : List Char} (hsome : text ≠ [])
    (htext : ∀ c ∈ text, 0x80 ≤ c.toNat ∨ c.isAlphanum = true ∨ c ∈ "-._~".toList) :
    IsCredential text := by
  have hsigns : ∀ d ∈ "/?#\\:@(".toList, d.toNat < 0x80 :=
    List.all_iff_forall_prop.mp (by decide)
  have hquiet : ∀ c ∈ text, Url.isControlOrBlank c = false ∧ c ∉ "/?#\\:@(".toList := by
    intro c hc
    rcases Nat.lt_or_ge c.toNat 0x80 with hascii | hhigh
    · refine Url.forall_ascii (p := fun c => c.isAlphanum = true ∨ c ∈ "-._~".toList →
        Url.isControlOrBlank c = false ∧ c ∉ "/?#\\:@(".toList) (by decide) hascii ?_
      exact (htext c hc).resolve_left (Nat.not_le.mpr hascii)
    · refine ⟨?_, fun hmem => Nat.not_le.mpr (hsigns c hmem) hhigh⟩
      rw [Url.isControlOrBlank, decide_eq_false_iff_not]
      omega
  refine ⟨⟨hsome, fun c hc => ?_⟩, fun hbracket => (hquiet '(' hbracket).2 (by decide)⟩
  obtain ⟨hvisible, hsign⟩ := hquiet c hc
  have hauthority : c ∉ "/?#\\:@".toList := fun hmem => hsign (List.mem_append_left ['('] hmem)
  rw [Url.isAuthoritySign, hvisible, Bool.false_or]
  simpa using hauthority

namespace Mysql

/-! ## The plain form -/

/-- What stands behind a scheme comes in three parts, whatever it is. -/
theorem exists_separated (rest : List Char) :
    ∃ userinfo server behind, rest = userinfo ++ server ++ behind ∧
      Separated userinfo server behind := by
  obtain ⟨hrest, hfront, hbehind⟩ := Text.eq_of_span
    (List.span_eq_takeWhile_dropWhile (fun c => c != '/' && c != '?') rest)
  obtain ⟨userinfo, server, hparts, hserver, huser⟩ :=
    Text.exists_last '@' (rest.takeWhile fun c => c != '/' && c != '?')
  rw [hparts, List.forall_mem_append] at hfront
  obtain ⟨huserSigns, hserverSigns⟩ := hfront
  refine ⟨userinfo, server, _, by rw [← hparts]; exact hrest, huser, ?_, ?_, ?_⟩
  · exact fun c hc => by simpa using huserSigns c hc
  · intro c hc
    obtain ⟨hslash, hquestion⟩ : c ≠ '/' ∧ c ≠ '?' := by simpa using hserverSigns c hc
    exact ⟨hslash, hquestion, fun heq => hserver (heq ▸ hc)⟩
  · intro c hc
    have hstop := hbehind c hc
    simpa [Classical.or_iff_not_imp_left] using hstop

theorem Separated.credentials_append
    (huser : IsCredential user) (hpassword : IsCredential password)
    {userinfo server behind : List Char} (hparts : Separated userinfo server behind) :
    Separated (credentials user password ++ userinfo) server behind := by
  refine ⟨.inr ?_, ?_, hparts.server_signs, hparts.behind_sign⟩
  · rcases hparts.user with rfl | ⟨front, rfl⟩
    · exact ⟨user ++ ':' :: password, by rw [List.append_nil, credentials]⟩
    · exact ⟨credentials user password ++ front, by rw [List.append_assoc]⟩
  · have hword : ∀ text, IsCredential text → ∀ c ∈ text, c ≠ '/' ∧ c ≠ '?' := fun text htext c hc =>
      ⟨fun heq => htext.not_mem (by decide) (heq ▸ hc),
        fun heq => htext.not_mem (by decide) (heq ▸ hc)⟩
    unfold credentials
    simp only [List.forall_mem_append, List.forall_mem_cons]
    exact ⟨⟨⟨hword user huser, by decide, hword password hpassword⟩, by decide, by simp⟩,
      hparts.user_signs⟩

/-- A user with a password in front of an address stays there, and decides nothing else. -/
theorem plainRest_credentials
    (huser : IsCredential user) (hpassword : IsCredential password) (rest : List Char) :
    plainRest (credentials user password ++ rest) =
      (plainRest rest).map (credentials user password ++ ·) := by
  -- the server stands behind the last `@`, so it is found where it is found without the user
  obtain ⟨userinfo, server, behind, rfl, hparts⟩ := exists_separated rest
  have hlonger := hparts.credentials_append huser hpassword
  have hsocket : "unix(".toList <:+: credentials user password ++ userinfo ↔
      "unix(".toList <:+: userinfo := by
    have hnone : ¬"unix(".toList <:+: user ++ ':' :: password := fun hinfix => by
      have hmem : '(' ∈ user ++ ':' :: password := hinfix.subset (by decide)
      simp [huser.bracket, hpassword.bracket] at hmem
    rw [credentials, List.append_assoc, List.singleton_append, Text.infix_around_iff (by decide)]
    exact or_iff_right hnone
  have hoccurs : Text.occursIn "unix(".toList
        (credentials user password ++ userinfo ++ server ++ behind) =
      Text.occursIn "unix(".toList (userinfo ++ server ++ behind) := by
    rw [Bool.eq_iff_iff, Text.occursIn_iff, Text.occursIn_iff, hlonger.socket_iff,
      hparts.socket_iff, hsocket]
  rw [← List.append_assoc, ← List.append_assoc, hlonger.plainRest_eq, hparts.plainRest_eq, hoccurs]
  split
  next => rfl
  next =>
    cases plainServer server with
    | error failure => rfl
    | ok plain => simp [Except.map]

theorem addressText_mysql (rest : List Char) :
    addressText "mysql".toList rest = "mysql://".toList ++ rest := rfl

/-- An address with a password fails for any password, or is read for any as one URL with the
password in its place. -/
theorem plainUrl_credentials (huser : IsCredential user) (rest : List Char) :
    (∃ failure, ∀ password, IsCredential password →
      plainUrl (credentials user password ++ rest) = .error failure) ∨
    ∃ (plain more : List Char) (url : Url), url.HasUser "mysql".toList user ∧
      ∀ password, IsCredential password → plainUrl (credentials user password ++ rest) =
        .ok (String.ofList (addressText "mysql".toList (credentials user password ++ plain)),
          url.withPassword (Url.percentEncode Url.userinfoSet (password ++ more))) := by
  cases hplain : plainRest rest with
  | error failure =>
      refine .inl ⟨failure, fun password hpassword => ?_⟩
      rw [plainUrl_eq, plainRest_credentials huser hpassword, hplain]
      rfl
  | ok plain =>
      have hscheme : IsScheme "mysql".toList := by decide
      obtain ⟨more, outcome, hread, hnamed⟩ :=
        Url.parse_credentials hscheme (by decide) huser.toIsWord plain
      cases outcome with
      | error fault =>
          refine .inl ⟨.address fault.message, fun password hpassword => ?_⟩
          rw [plainUrl_eq, plainRest_credentials huser hpassword, hplain]
          simp only [← addressText_mysql, Except.map, Except.bind,
            hread password hpassword.toIsWord]
      | ok url =>
          refine .inr ⟨plain, more, url, hnamed url rfl, fun password hpassword => ?_⟩
          rw [plainUrl_eq, plainRest_credentials huser hpassword, hplain]
          simp only [← addressText_mysql, Except.map, Except.bind,
            hread password hpassword.toIsWord]

theorem exists_connectionText (huser : IsCredential user) (rest : List Char) :
    ∃ outcome : Except Failure String, ∀ password, IsCredential password →
      (connectionText (credentials user password ++ rest)).map maskCredentials = outcome := by
  have hscheme : IsScheme "mysql".toList := by decide
  rcases plainUrl_credentials huser rest with ⟨failure, hread⟩ | ⟨plain, more, url, hurl, hread⟩
  · refine ⟨.error failure, fun password hpassword => ?_⟩
    rw [connectionText_eq, hread password hpassword]
    rfl
  · cases hquery : url.query with
    | none =>
        obtain ⟨shown, hshown⟩ :=
          exists_maskCredentials hscheme (by decide) huser.toIsWord plain
        refine ⟨.ok shown, fun password hpassword => ?_⟩
        have hnone : (url.withPassword
            (Url.percentEncode Url.userinfoSet (password ++ more))).query = none := hquery
        rw [connectionText_eq, hread password hpassword]
        simp only [Except.map, hnone, hshown password hpassword.toIsWord]
    | some query =>
        have hother : ({ url with query := translateQuery query } : Url).HasUser
            "mysql".toList user := ⟨hurl.scheme, hurl.username⟩
        obtain ⟨shown, hshown⟩ :=
          exists_maskCredentials_render hscheme (by decide) huser.toIsWord hother
        refine ⟨.ok shown, fun password hpassword => ?_⟩
        have hsome : (url.withPassword
            (Url.percentEncode Url.userinfoSet (password ++ more))).query = some query := hquery
        rw [connectionText_eq, hread password hpassword]
        simp only [Except.map, hsome]
        exact congrArg Except.ok (hshown _ (isWord_written hpassword.toIsWord more))

theorem exists_remarks (huser : IsCredential user) (rest : List Char) :
    ∃ events, ∀ password, IsCredential password →
      remarks (credentials user password ++ rest) = events := by
  rcases plainUrl_credentials huser rest with ⟨failure, hread⟩ | ⟨plain, more, url, -, hread⟩
  · refine ⟨[], fun password hpassword => ?_⟩
    rw [remarks, hread password hpassword]
  · refine ⟨((url.query.map fun query => Url.formPairs query.toList).getD []).filterMap remark?,
      fun password hpassword => ?_⟩
    rw [remarks, hread password hpassword]
    rfl

end Mysql

namespace DatabaseAddress

theorem splitScheme?_addressText (hscheme : IsScheme scheme) (rest : List Char) :
    splitScheme? (addressText scheme rest) = some (scheme, rest) := by
  have hcolon : ':' ∉ scheme := fun hmem => absurd (hscheme.small ':' hmem) (by decide)
  exact Text.splitAt?_of_first hcolon

theorem parse_addressText
    (hscheme : IsScheme scheme) {dialect : Dialect}
    (hdialect : Dialect.ofScheme? (String.ofList scheme) = some dialect) (rest : List Char) :
    parse (addressText scheme rest) =
      (connectionTextOf dialect rest).map (DatabaseAddress.mk dialect) := by
  rw [parse, splitScheme?_addressText hscheme]
  dsimp only
  rw [hdialect]
  change (connectionTextOf dialect rest).bind
    (fun text => .ok (DatabaseAddress.mk dialect text)) = _
  cases connectionTextOf dialect rest <;> rfl

theorem ofList_addressText (scheme rest : List Char) :
    String.ofList (addressText scheme rest) =
      String.ofList (scheme ++ "://".toList) ++ String.ofList rest := by
  rw [addressText, String.ofList_append]

theorem exists_passedOn
    (hscheme : IsScheme scheme) (hkind : Url.SchemeKind.of scheme ≠ .file)
    (huser : IsCredential user) (rest : List Char) :
    ∃ outcome : Except Failure String, ∀ password, IsCredential password →
      (Except.ok (String.ofList (scheme ++ "://".toList) ++
        String.ofList (credentials user password ++ rest))).map maskCredentials = outcome := by
  obtain ⟨shown, hshown⟩ := exists_maskCredentials hscheme hkind huser.toIsWord rest
  refine ⟨.ok shown, fun password hpassword => ?_⟩
  have hmasked := hshown password hpassword.toIsWord
  rw [ofList_addressText] at hmasked
  exact congrArg Except.ok hmasked

theorem map_masked {dialect : Dialect} (hfile : dialect ≠ .sqlite) (text : Except Failure String) :
    (text.map (DatabaseAddress.mk dialect)).map masked = text.map maskCredentials := by
  cases text with
  | error failure => rfl
  | ok text =>
      cases dialect with
      | sqlite => exact absurd rfl hfile
      | _ => rfl

theorem exists_connectionTextOf
    {dialect : Dialect} (hfile : dialect ≠ .sqlite) (huser : IsCredential user) (rest : List Char) :
    ∃ outcome : Except Failure String, ∀ password, IsCredential password →
      (connectionTextOf dialect (credentials user password ++ rest)).map maskCredentials =
        outcome := by
  cases dialect with
  | mysql => exact Mysql.exists_connectionText huser rest
  | sqlite => exact absurd rfl hfile
  | postgres =>
      have hscheme : IsScheme "postgres".toList := by decide
      obtain ⟨shown, hshown⟩ := exists_maskCredentials hscheme (by decide) huser.toIsWord rest
      obtain ⟨more, outcome, hread, -⟩ :=
        Url.parse_credentials hscheme (by decide) huser.toIsWord rest
      refine ⟨match outcome with
        | .ok _ => .ok shown
        | .error fault => .error (.address fault.message), fun password hpassword => ?_⟩
      have hparse := hread password hpassword.toIsWord
      have hmasked := hshown password hpassword.toIsWord
      rw [ofList_addressText] at hparse hmasked
      change Url.parse ("postgres://" ++ String.ofList (credentials user password ++ rest)) = _
        at hparse
      rw [connectionTextOf]
      cases outcome with
      | error fault =>
          simp only [hparse, Except.map]
      | ok url =>
          simp only [hparse, Except.map]
          exact congrArg Except.ok hmasked
  | oracle =>
      have hscheme : IsScheme "oracle".toList := by decide
      exact exists_passedOn hscheme (by decide) huser rest
  | sqlServer =>
      have hscheme : IsScheme "sqlserver".toList := by decide
      exact exists_passedOn hscheme (by decide) huser rest

/-- The address of a database with a password is shown for any password, or refused for any. -/
theorem exists_masked
    (hscheme : IsScheme scheme) {dialect : Dialect}
    (hdialect : Dialect.ofScheme? (String.ofList scheme) = some dialect)
    (hfile : dialect ≠ .sqlite) (huser : IsCredential user) (rest : List Char) :
    ∃ outcome : Except Failure String, ∀ password, IsCredential password →
      (parse (addressText scheme (credentials user password ++ rest))).map masked = outcome := by
  obtain ⟨outcome, houtcome⟩ := exists_connectionTextOf hfile huser rest
  refine ⟨outcome, fun password hpassword => ?_⟩
  rw [parse_addressText hscheme hdialect, map_masked hfile, houtcome password hpassword]

theorem exists_remarks
    (hscheme : IsScheme scheme) (huser : IsCredential user) (rest : List Char) :
    ∃ events, ∀ password, IsCredential password →
      remarks (addressText scheme (credentials user password ++ rest)) = events := by
  obtain ⟨events, hevents⟩ := Mysql.exists_remarks huser rest
  by_cases hdialect : Dialect.ofScheme? (String.ofList scheme) = some .mysql
  · refine ⟨events, fun password hpassword => ?_⟩
    rw [remarks, splitScheme?_addressText hscheme]
    exact (if_pos hdialect).trans (hevents password hpassword)
  · refine ⟨[], fun password hpassword => ?_⟩
    rw [remarks, splitScheme?_addressText hscheme]
    exact if_neg hdialect

end DatabaseAddress

namespace Address

/-! ## Addresses -/

theorem trim_addressText_ne_nil (hscheme : IsScheme scheme) (rest : List Char) :
    Text.trim (addressText scheme rest) ≠ [] := by
  intro hnil
  obtain ⟨c, others, rfl⟩ := List.exists_cons_of_ne_nil hscheme.nonempty
  have hsmall := hscheme.small c List.mem_cons_self
  have hspace : Text.isSpace c = true := Text.trim_eq_nil_iff.mp hnil c List.mem_cons_self
  rw [Sql.isSpace_of_isAlpha (Sql.isAlpha_of_isLower hsmall)] at hspace
  cases hspace

def userSchemes : List String :=
  ["http", "https", "mysql", "maria", "mariadb", "postgres", "postgresql", "oracle", "mssql",
    "sqlserver"]

theorem isScheme_of_mem : ∀ scheme ∈ userSchemes, IsScheme scheme.toList := by
  decide

theorem beginning_addressText
    {scheme : String} (hscheme : scheme ∈ userSchemes) (rest : List Char) :
    beginning (addressText scheme.toList rest) =
      if scheme ∈ ["http", "https"] then .web else .database := by
  have hsome := trim_addressText_ne_nil (isScheme_of_mem scheme hscheme) rest
  rw [beginning, if_neg (by simpa using hsome)]
  simp only [userSchemes, List.mem_cons, List.not_mem_nil, or_false] at hscheme
  rcases hscheme with rfl | rfl | rfl | rfl | rfl | rfl | rfl | rfl | rfl | rfl <;> rfl

theorem dialect_of_mem :
    ∀ scheme ∈ userSchemes, scheme ∉ ["http", "https"] →
      (Dialect.ofScheme? scheme).isSome = true ∧ Dialect.ofScheme? scheme ≠ some .sqlite := by
  decide

theorem exists_described_web
    {scheme : String} (hscheme : scheme ∈ userSchemes) (hweb : scheme ∈ ["http", "https"])
    (huser : IsCredential user) (rest : List Char) :
    ∃ outcome : Except Failure String, ∀ password, IsCredential password →
      (parse (String.ofList (addressText scheme.toList (credentials user password ++ rest)))).map
        describe = outcome := by
  have hkind : ∀ scheme ∈ userSchemes, Url.SchemeKind.of scheme.toList ≠ .file := by decide
  obtain ⟨outcome, hshown⟩ := exists_shown (isScheme_of_mem scheme hscheme) (hkind scheme hscheme)
    huser.toIsWord rest
  refine ⟨outcome.mapError fun fault => .address fault.message, fun password hpassword => ?_⟩
  rw [← hshown password hpassword.toIsWord, parse, String.toList_ofList,
    beginning_addressText hscheme, if_pos hweb]
  dsimp only
  cases Url.parse (String.ofList (addressText scheme.toList (credentials user password ++ rest)))
    <;> rfl

theorem exists_described_database
    {scheme : String} (hscheme : scheme ∈ userSchemes) (hweb : scheme ∉ ["http", "https"])
    (huser : IsCredential user) (rest : List Char) :
    ∃ outcome : Except Failure String, ∀ password, IsCredential password →
      (parse (String.ofList (addressText scheme.toList (credentials user password ++ rest)))).map
        describe = outcome := by
  obtain ⟨hsome, hfile⟩ := dialect_of_mem scheme hscheme hweb
  obtain ⟨dialect, hdialect⟩ := Option.isSome_iff_exists.mp hsome
  rw [hdialect] at hfile
  obtain ⟨outcome, hshown⟩ := DatabaseAddress.exists_masked (isScheme_of_mem scheme hscheme)
    (String.ofList_toList.symm ▸ hdialect) (fun heq => hfile (heq ▸ rfl)) huser rest
  refine ⟨outcome, fun password hpassword => ?_⟩
  rw [← hshown password hpassword, parse, String.toList_ofList, beginning_addressText hscheme,
    if_neg hweb]
  dsimp only
  cases DatabaseAddress.parse (addressText scheme.toList (credentials user password ++ rest))
    <;> rfl

/-- What is reported of an address with a password is reported for any password. -/
theorem exists_remarks
    {scheme : String} (hscheme : scheme ∈ userSchemes) (huser : IsCredential user)
    (rest : List Char) :
    ∃ events, ∀ password, IsCredential password →
      remarks (String.ofList (addressText scheme.toList (credentials user password ++ rest))) =
        events := by
  obtain ⟨events, hevents⟩ :=
    DatabaseAddress.exists_remarks (isScheme_of_mem scheme hscheme) huser rest
  refine ⟨if scheme ∈ ["http", "https"] then [] else events, fun password hpassword => ?_⟩
  rw [remarks, String.toList_ofList, beginning_addressText hscheme]
  split_ifs
  · rfl
  · exact hevents password hpassword

/-- A password decides nothing of what is shown.  Two addresses that differ in it only are read as
addresses with one description, or are refused with one failure, and reading them reports the same.
What stands behind the `@` may be anything. -/
theorem describe_parse_hides_password
    {scheme : String} {user password other : List Char} (hscheme : scheme ∈ userSchemes)
    (huser : IsCredential user) (hpassword : IsCredential password) (hother : IsCredential other)
    (rest : List Char) :
    let address (password : List Char) :=
      String.ofList (scheme.toList ++ "://".toList ++ (user ++ ':' :: password ++ '@' :: rest))
    (parse (address password)).map describe = (parse (address other)).map describe ∧
      remarks (address password) = remarks (address other) := by
  intro address
  have haddress : ∀ password, address password =
      String.ofList (addressText scheme.toList (credentials user password ++ rest)) := by
    intro password
    simp [address, addressText, credentials]
  obtain ⟨outcome, houtcome⟩ : ∃ outcome : Except Failure String, ∀ password,
      IsCredential password →
        (parse (String.ofList (addressText scheme.toList (credentials user password ++ rest)))).map
          describe = outcome := by
    by_cases hweb : scheme ∈ ["http", "https"]
    · exact exists_described_web hscheme hweb huser rest
    · exact exists_described_database hscheme hweb huser rest
  obtain ⟨events, hevents⟩ := exists_remarks hscheme huser rest
  rw [haddress, haddress, houtcome password hpassword, houtcome other hother,
    hevents password hpassword, hevents other hother]
  exact ⟨rfl, rfl⟩

/-- A server in brackets and parameters of two kinds behind one name and two passwords. -/
theorem describe_parse_hides_password_of_maria :
    let rest := "tcp([::1]:3306)/app?tls=true&charset=utf8".toList
    let address (password : List Char) := String.ofList ("maria".toList ++ "://".toList ++
      ("root".toList ++ ':' :: password ++ '@' :: rest))
    "maria" ∈ userSchemes ∧ IsCredential "root".toList ∧ IsCredential "hunter2".toList ∧
      IsCredential "a-b.c_d~".toList ∧
      (parse (address "hunter2".toList)).map describe =
        (parse (address "a-b.c_d~".toList)).map describe ∧
      (parse (address "hunter2".toList)).map describe =
        .ok "mysql://root:***@[::1]:3306/app?require_ssl=true" := by
  intro rest address
  have hscheme : "maria" ∈ userSchemes := by decide
  have huser : IsCredential "root".toList :=
    isCredential_of_unreserved (by decide) (List.all_iff_forall_prop.mp (by decide))
  have hpassword : IsCredential "hunter2".toList :=
    isCredential_of_unreserved (by decide) (List.all_iff_forall_prop.mp (by decide))
  have hother : IsCredential "a-b.c_d~".toList :=
    isCredential_of_unreserved (by decide) (List.all_iff_forall_prop.mp (by decide))
  exact ⟨hscheme, huser, hpassword, hother,
    (describe_parse_hides_password hscheme huser hpassword hother rest).1, by decide +kernel⟩

end Address

end SqlPipe
