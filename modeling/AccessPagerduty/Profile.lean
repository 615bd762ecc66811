/-
# `AccessPagerduty.Profile` — `tsh` profiles on disk (`lib/client/profile.go`)

`ClientProfile.SaveTo` writes a profile as YAML to a path, then, optionally,
points an alias symlink at it, and makes it current by pointing the
`profile` symlink of its directory at it; `ProfileFromDir` reads
`<dir>/<proxy>.yaml`, or `<dir>/profile` when no proxy is named.  Both links
name the file by `filepath.Base` alone, so they resolve in their own
directory.

The file system is modelled by what these calls do to it.  A path is its
components: `filepath.Join` appends one, `Dir` drops the last, `Base` is the
last.  An entry is a file or a symlink; `WriteFile` and `ReadFile` follow
symlinks (at most `maxSymlinks` of them, then `ELOOP`), while `Remove` and
`Symlink` act on the entry itself.  Any call `SaveTo` makes may fail, with
any error (`SaveFaults`); the errors of the alias calls and of the removal
of the old `profile` link are only logged, and the Go code's `err :=`
inside the alias block shadows the one it returns.  YAML is a pair of
functions from outside `src/`.

## The results

* `saveTo_noAlias`: a save with no alias and no failing call writes the file
  and, made current, points the `profile` link at it.
* `saveTo_current_self`: saved under the name `profile` and made current,
  the file is replaced by a link to itself that cannot be read, and `SaveTo`
  reports success.
* `ProfileDir.Stored.record`, `saveRun_profileFromDir`: over any run of saves
  into one directory, the files hold a map from names to the profiles saved
  last under them, and the `profile` link reads as the profile now saved
  under the name made current last.
-/
import AccessPagerduty.Basic

namespace AccessPagerduty

/-! ## Profiles and YAML -/

/-- A Go `[]byte`. -/
abbrev Bytes := List UInt8

/-- `ClientProfile`, the `tsh` flags kept between runs. -/
structure ClientProfile where
  webProxyAddr : String
  sshProxyAddr : String
  kubeProxyAddr : String
  username : String
  authType : String
  siteName : String
  forwardedPorts : List String
  dynamicForwardedPorts : List String
  deriving DecidableEq, Repr

/-- `yaml.Marshal`, and `yaml.Unmarshal` into a `*ClientProfile`, which stays
`nil` on an empty document. -/
structure Yaml where
  marshal : ClientProfile → Except Error Bytes
  unmarshal : Bytes → Except Error (Option ClientProfile)

/-! ## Paths and the file system -/

/-- A clean path, by its components. -/
abbrev Path := List String

namespace Filepath

def join (dir : Path) (elem : String) : Path := dir ++ [elem]

def base (p : Path) : String := p.getLast?.getD "."

def dir (p : Path) : Path := p.dropLast

@[simp] theorem base_join (dir : Path) (elem : String) : base (join dir elem) = elem := by
  simp [base, join]

@[simp] theorem dir_join (dir : Path) (elem : String) : Filepath.dir (join dir elem) = dir := by
  simp [Filepath.dir, join]

/-- A non-empty path is its base in its directory. -/
theorem join_dir_base {p : Path} (h : p ≠ []) : join (dir p) (base p) = p := by
  simp only [join, dir, base, List.getLast?_eq_getLast p h, Option.getD_some]
  exact List.dropLast_append_getLast h

end Filepath

/-- An entry: a file, or a symlink naming its target, as `os.Symlink` stores
it. -/
inductive FileNode where
  | file (bytes : Bytes)
  | symlink (target : String)
  deriving DecidableEq, Repr

/-- The file system: the entry at each path. -/
structure FS where
  entry : Path → Option FileNode

/-- Symlinks followed before `ELOOP`, as Linux does. -/
def maxSymlinks : Nat := 40

def errNotExist : Error := .notFound "no such file or directory"

def errExist : Error := .errorf "file exists"

def errLoop : Error := .errorf "too many levels of symbolic links"

namespace FS

/-- The file system with the entry at `p` replaced. -/
def set (fs : FS) (p : Path) (n : Option FileNode) : FS := ⟨Function.update fs.entry p n⟩

@[simp] theorem entry_set (fs : FS) (p q : Path) (n : Option FileNode) :
    (fs.set p n).entry q = if q = p then n else fs.entry q := by
  simp [set, Function.update_apply]

@[simp] theorem set_set (fs : FS) (p : Path) (n n' : Option FileNode) : (fs.set p n).set p n' = fs.set p n' := by
  simp [set, Function.update_idem]

/-- Where `p` leads after following at most `hops` symlinks; a link's target
is a name in the link's directory. -/
def resolve (fs : FS) : Nat → Path → Except Error Path
  | 0, p =>
    match fs.entry p with
    | some (.symlink _) => .error errLoop
    | _ => .ok p
  | hops + 1, p =>
    match fs.entry p with
    | some (.symlink target) => fs.resolve hops (Filepath.join (Filepath.dir p) target)
    | _ => .ok p

/-- `ioutil.ReadFile`, through symlinks. -/
def readFile (fs : FS) (p : Path) : Except Error Bytes := do
  let q ← fs.resolve maxSymlinks p
  match fs.entry q with
  | some (.file bytes) => .ok bytes
  | _ => .error errNotExist

/-- `ioutil.WriteFile`: opened with `O_CREATE|O_TRUNC`, through symlinks. -/
def writeFile (fail : Option Error) (fs : FS) (p : Path) (bytes : Bytes) : Except Error FS :=
  match fail with
  | some e => .error e
  | none => do
    let q ← fs.resolve maxSymlinks p
    pure (fs.set q (some (.file bytes)))

/-- `os.Remove`, of the entry itself. -/
def remove (fail : Option Error) (fs : FS) (p : Path) : Except Error FS :=
  match fail with
  | some e => .error e
  | none =>
    match fs.entry p with
    | none => .error errNotExist
    | some _ => .ok (fs.set p none)

/-- `os.Symlink(target, p)`: fails when `p` exists. -/
def symlink (fail : Option Error) (fs : FS) (target : String) (p : Path) : Except Error FS :=
  match fail with
  | some e => .error e
  | none =>
    match fs.entry p with
    | some _ => .error errExist
    | none => .ok (fs.set p (some (.symlink target)))

/-- A call whose error is only logged: on an error nothing changed. -/
def logged (r : Except Error FS) (fs : FS) : FS :=
  match r with
  | .ok fs' => fs'
  | .error _ => fs

/-! ### What the calls do -/

variable {fs : FS} {p : Path}

/-- A path that is not a symlink resolves to itself. -/
theorem resolve_of_not_symlink (h : ∀ t, fs.entry p ≠ some (.symlink t)) (hops : Nat) :
    fs.resolve hops p = .ok p := by
  cases hops <;> (unfold resolve; split) <;> simp_all

/-- A file not behind a link reads as its bytes. -/
theorem readFile_file {bytes : Bytes} (h : fs.entry p = some (.file bytes)) : fs.readFile p = .ok bytes := by
  have hres : fs.resolve maxSymlinks p = .ok p := resolve_of_not_symlink (by simp [h]) _
  simp [readFile, hres, h]

/-- A link named by its base, in a file's directory, reads as the file. -/
theorem readFile_symlink {q : Path} {bytes : Bytes} (hp : p ≠ [])
    (hq : fs.entry q = some (.symlink (Filepath.base p))) (hdir : Filepath.dir q = Filepath.dir p)
    (h : fs.entry p = some (.file bytes)) : fs.readFile q = .ok bytes := by
  have hres : fs.resolve maxSymlinks q = .ok p := by
    rw [show maxSymlinks = 39 + 1 from rfl, resolve, hq]
    simp only
    rw [hdir, Filepath.join_dir_base hp]
    exact resolve_of_not_symlink (by simp [h]) _
  simp [readFile, hres, h]

/-- A write to a path that is not a link puts the file there. -/
theorem writeFile_none {bytes : Bytes} (h : ∀ t, fs.entry p ≠ some (.symlink t)) :
    fs.writeFile none p bytes = .ok (fs.set p (some (.file bytes))) := by
  simp [writeFile, resolve_of_not_symlink h]

/-- A removal whose error is logged either removed the entry or changed
nothing. -/
theorem logged_remove (f : Option Error) :
    logged (fs.remove f p) fs = fs ∨ logged (fs.remove f p) fs = fs.set p none := by
  unfold remove
  cases f
  · rcases h : fs.entry p with _ | n <;> simp [logged, h]
  · simp [logged]

/-- After a removal that did not fail, the entry is gone. -/
theorem entry_logged_remove_self : (logged (fs.remove none p) fs).entry p = none := by
  rcases h : fs.entry p with _ | n <;> simp [remove, logged, h]

/-- A link whose error is logged either was made or changed nothing. -/
theorem logged_symlink (f : Option Error) (target : String) :
    logged (fs.symlink f target p) fs = fs ∨
      logged (fs.symlink f target p) fs = fs.set p (some (.symlink target)) := by
  unfold symlink
  cases f
  · rcases h : fs.entry p with _ | n <;> simp [logged, h]
  · simp [logged]

/-- A link that succeeded was made. -/
theorem symlink_ok {f : Option Error} {target : String} {fs' : FS} (h : fs.symlink f target p = .ok fs') :
    fs' = fs.set p (some (.symlink target)) := by
  unfold symlink at h
  cases f
  · rcases hp : fs.entry p with _ | n <;> simp only [hp] at h <;> cases h
    rfl
  · cases h

/-- A link to a free path, with no failure, is made. -/
theorem symlink_none {target : String} (h : fs.entry p = none) :
    fs.symlink none target p = .ok (fs.set p (some (.symlink target))) := by
  simp [symlink, h]

/-- A logged removal leaves the other entries alone. -/
theorem entry_logged_remove_of_ne {q : Path} (f : Option Error) (h : q ≠ p) :
    (logged (fs.remove f p) fs).entry q = fs.entry q := by
  rcases @logged_remove fs p f with h' | h' <;> simp [h', h]

/-- A logged link leaves the other entries alone. -/
theorem entry_logged_symlink_of_ne {q : Path} (f : Option Error) (target : String) (h : q ≠ p) :
    (logged (fs.symlink f target p) fs).entry q = fs.entry q := by
  rcases @logged_symlink fs p f target with h' | h' <;> simp [h', h]

/-- A link to a free path, with no failure, is there after. -/
theorem entry_logged_symlink_self {target : String} (h : fs.entry p = none) :
    (logged (fs.symlink none target p) fs).entry p = some (.symlink target) := by
  simp [symlink_none h, logged]

/-- A link to itself never resolves. -/
theorem resolve_loop {target : String} (h : fs.entry p = some (.symlink target))
    (hself : Filepath.join (Filepath.dir p) target = p) (hops : Nat) : fs.resolve hops p = .error errLoop := by
  induction hops with
  | zero => simp [resolve, h]
  | succ hops ih => simp only [resolve, h, hself, ih]

end FS

/-! ## The code -/

/-- `CurrentProfileSymlink`. -/
def currentProfileSymlink : String := "profile"

/-- `ProfileMakeCurrent = 1 << iota`, on the second line of its `const`
block, where `iota` is 1. -/
def profileMakeCurrent : Nat := 1 <<< 1

/-- `ProfileLocation`. -/
structure ProfileLocation where
  aliasPath : Path
  path : Path
  options : Nat

/-- What the OS answers each call of `SaveTo` with when it fails it. -/
structure SaveFaults where
  writeFile : Option Error
  removeAlias : Option Error
  symlinkAlias : Option Error
  removeCurrent : Option Error
  symlinkCurrent : Option Error

/-- No call fails. -/
def SaveFaults.none : SaveFaults := ⟨.none, .none, .none, .none, .none⟩

/-- `ClientProfile.SaveTo`: the error it returns, and the file system after. -/
def ClientProfile.saveTo (yaml : Yaml) (cp : ClientProfile) (loc : ProfileLocation)
    (faults : SaveFaults) (fs : FS) : Except Error Unit × FS :=
  match yaml.marshal cp with
  | .error e => (.error e, fs)
  | .ok bytes =>
    match fs.writeFile faults.writeFile loc.path bytes with
    | .error e => (.error e, fs)
    | .ok fs =>
      let fs :=
        if loc.aliasPath ≠ [] ∧ Filepath.base loc.aliasPath ≠ Filepath.base loc.path then
          let fs := FS.logged (fs.remove faults.removeAlias loc.aliasPath) fs
          FS.logged (fs.symlink faults.symlinkAlias (Filepath.base loc.path) loc.aliasPath) fs
        else fs
      if loc.options &&& profileMakeCurrent ≠ 0 then
        let symlink := Filepath.join (Filepath.dir loc.path) currentProfileSymlink
        let fs := FS.logged (fs.remove faults.removeCurrent symlink) fs
        match fs.symlink faults.symlinkCurrent (Filepath.base loc.path) symlink with
        | .error e => (.error e, fs)
        | .ok fs => (.ok (), fs)
      else (.ok (), fs)

/-- `ProfileFromFile`. -/
def profileFromFile (yaml : Yaml) (fs : FS) (filePath : Path) : Except Error (Option ClientProfile) := do
  let bytes ← fs.readFile filePath
  yaml.unmarshal bytes

/-- `ProfileFromDir`. -/
def profileFromDir (yaml : Yaml) (fs : FS) (dirPath : Path) (proxyName : String) :
    Except Error (Option ClientProfile) :=
  let profilePath :=
    if proxyName ≠ "" then Filepath.join dirPath (proxyName ++ ".yaml")
    else Filepath.join dirPath currentProfileSymlink
  profileFromFile yaml fs profilePath

/-! ## Saving -/

/-- A profile, and a codec that encodes only it, for the instances below. -/
def sampleProfile : ClientProfile := ⟨"proxy.example.com:3080", "", "", "alice", "", "", [], []⟩

def sampleYaml : Yaml where
  marshal cp := if cp = sampleProfile then .ok [1] else .error (.errorf "unsupported profile")
  unmarshal bytes := if bytes = [1] then .ok (some sampleProfile) else .error (.errorf "bad document")

theorem sampleYaml_roundTrip (cp : ClientProfile) (bytes : Bytes) (h : sampleYaml.marshal cp = .ok bytes) :
    sampleYaml.unmarshal bytes = .ok (some cp) := by
  simp only [sampleYaml] at h ⊢
  split_ifs at h with hc
  cases h
  rw [hc, if_pos rfl]

/-- An empty directory tree. -/
def emptyFS : FS := ⟨fun _ => none⟩

theorem emptyFS_not_symlink (p : Path) : ∀ t, emptyFS.entry p ≠ some (.symlink t) := nofun

/-- `SaveTo` with no alias and no failing call, to a path that is not a link:
the file is written, and, made current, the `profile` link of its directory
names it. -/
theorem saveTo_noAlias (yaml : Yaml) (cp : ClientProfile) (path : Path) (options : Nat) (fs : FS)
    {bytes : Bytes} (hmarshal : yaml.marshal cp = .ok bytes) (hlink : ∀ t, fs.entry path ≠ some (.symlink t)) :
    cp.saveTo yaml ⟨[], path, options⟩ SaveFaults.none fs =
      (.ok (), if options &&& profileMakeCurrent ≠ 0 then
          (fs.set path (some (.file bytes))).set (Filepath.join (Filepath.dir path) currentProfileSymlink)
            (some (.symlink (Filepath.base path)))
        else fs.set path (some (.file bytes))) := by
  simp only [ClientProfile.saveTo, hmarshal, SaveFaults.none, FS.writeFile_none hlink, ne_eq,
    not_true_eq_false, false_and, if_false]
  split_ifs
  · rfl
  · rw [FS.symlink_none FS.entry_logged_remove_self]
    rcases @FS.logged_remove (fs.set path (some (.file bytes)))
      (Filepath.join (Filepath.dir path) currentProfileSymlink) none with h | h <;> simp [h]

section NoAlias
variable (yaml : Yaml) (cp : ClientProfile) (path : Path) (options : Nat) (fs : FS) {bytes : Bytes}

/-- A save with no alias and no failing call leaves every entry but its file
and the `profile` link alone. -/
theorem saveTo_noAlias_entry_of_ne (hmarshal : yaml.marshal cp = .ok bytes)
    (hlink : ∀ t, fs.entry path ≠ some (.symlink t)) {q : Path} (hq : q ≠ path)
    (hcur : q ≠ Filepath.join (Filepath.dir path) currentProfileSymlink) :
    (cp.saveTo yaml ⟨[], path, options⟩ SaveFaults.none fs).2.entry q = fs.entry q := by
  rw [saveTo_noAlias yaml cp path options fs hmarshal hlink]
  split_ifs <;> simp [hq, hcur]

/-- After a save with no alias and no failing call, its file holds the
encoding, unless it is the `profile` link itself. -/
theorem saveTo_noAlias_entry_self (hmarshal : yaml.marshal cp = .ok bytes)
    (hlink : ∀ t, fs.entry path ≠ some (.symlink t))
    (hcur : path ≠ Filepath.join (Filepath.dir path) currentProfileSymlink) :
    (cp.saveTo yaml ⟨[], path, options⟩ SaveFaults.none fs).2.entry path = some (.file bytes) := by
  rw [saveTo_noAlias yaml cp path options fs hmarshal hlink]
  split_ifs <;> simp [hcur]

/-- After a save with no alias and no failing call, the `profile` link names
its file when made current, and is as it was otherwise. -/
theorem saveTo_noAlias_entry_current (hmarshal : yaml.marshal cp = .ok bytes)
    (hlink : ∀ t, fs.entry path ≠ some (.symlink t))
    (hcur : path ≠ Filepath.join (Filepath.dir path) currentProfileSymlink) :
    (cp.saveTo yaml ⟨[], path, options⟩ SaveFaults.none fs).2.entry
        (Filepath.join (Filepath.dir path) currentProfileSymlink) =
      if options &&& profileMakeCurrent ≠ 0 then some (.symlink (Filepath.base path))
      else fs.entry (Filepath.join (Filepath.dir path) currentProfileSymlink) := by
  rw [saveTo_noAlias yaml cp path options fs hmarshal hlink]
  split_ifs <;> simp [hcur.symm]

end NoAlias

/-- **Saved as `profile` and made current, the profile is lost.**  The
`profile` link replaces the file just written and names itself, so reading
the profile fails with `ELOOP` — and `SaveTo` returns `nil`. -/
theorem saveTo_current_self (yaml : Yaml) (cp : ClientProfile) (dir : Path) (options : Nat)
    (hmc : options &&& profileMakeCurrent ≠ 0) (fs : FS) {bytes : Bytes}
    (hmarshal : yaml.marshal cp = .ok bytes)
    (hlink : ∀ t, fs.entry (Filepath.join dir currentProfileSymlink) ≠ some (.symlink t)) :
    let loc : ProfileLocation := ⟨[], Filepath.join dir currentProfileSymlink, options⟩
    let r := cp.saveTo yaml loc SaveFaults.none fs
    r.1 = .ok () ∧ r.2.entry loc.path = some (.symlink currentProfileSymlink) ∧
      profileFromFile yaml r.2 loc.path = .error errLoop := by
  set path := Filepath.join dir currentProfileSymlink
  have hsave : cp.saveTo yaml ⟨[], path, options⟩ SaveFaults.none fs =
      (.ok (), fs.set path (some (.symlink currentProfileSymlink))) := by
    rw [saveTo_noAlias yaml cp path options fs hmarshal hlink, if_pos hmc]
    simp [path]
  have hentry : (fs.set path (some (.symlink currentProfileSymlink))).entry path =
      some (.symlink currentProfileSymlink) := by simp
  refine ⟨by rw [hsave], by rw [hsave, hentry], ?_⟩
  have hloop := FS.resolve_loop hentry (by simp [path]) maxSymlinks
  simp [hsave, profileFromFile, FS.readFile, hloop]

/-! ## A directory of profiles over many saves

`tsh` keeps one profile per proxy in a directory, as `<dir>/<proxy>.yaml`,
and makes one of them current.  What the directory is for is a map from
names to profiles with one name marked current (`ProfileDir`).  Over any run
of saves into the directory with no alias and no failing call, the files
refine that map: `ProfileFromDir` under a name reads the last profile saved
under it, and with no name reads the profile now saved under the name made
current last — the `profile` link names a file, not the profile that was
saved when the link was made. -/

/-- One save of a run: a profile, the name it is saved under, and the
options. -/
structure ProfileSave where
  profile : ClientProfile
  name : String
  options : Nat

/-- Where a save puts its profile: `<dir>/<name>.yaml`, with no alias. -/
def ProfileSave.location (dir : Path) (s : ProfileSave) : ProfileLocation :=
  ⟨[], Filepath.join dir (s.name ++ ".yaml"), s.options⟩

/-- A run of saves into `dir`, no call failing: the file system after. -/
def saveRun (yaml : Yaml) (dir : Path) (fs : FS) (saves : List ProfileSave) : FS :=
  saves.foldl (fun fs s => (s.profile.saveTo yaml (s.location dir) SaveFaults.none fs).2) fs

/-- What a directory of profiles holds: the profile saved under each name,
and the name made current. -/
structure ProfileDir where
  saved : String → Option ClientProfile
  current : Option String

/-- A directory nothing was saved to. -/
def ProfileDir.empty : ProfileDir := ⟨fun _ => none, none⟩

/-- A save, as the directory records it: a profile that encodes is saved
under its name, which is made current when the options ask. -/
def ProfileDir.record (yaml : Yaml) (d : ProfileDir) (s : ProfileSave) : ProfileDir :=
  match yaml.marshal s.profile with
  | .error _ => d
  | .ok _ => ⟨Function.update d.saved s.name (some s.profile),
      if s.options &&& profileMakeCurrent ≠ 0 then some s.name else d.current⟩

/-- The files hold what the record says: under each saved name, the file with
its profile's encoding; under every other name, what `fs₀` had there; and for
the current name, the `profile` link naming its file. -/
structure ProfileDir.Stored (yaml : Yaml) (dir : Path) (fs₀ : FS) (d : ProfileDir) (fs : FS) : Prop where
  saved : ∀ name cp, d.saved name = some cp → ∃ bytes, yaml.marshal cp = .ok bytes ∧
    fs.entry (Filepath.join dir (name ++ ".yaml")) = some (.file bytes)
  unsaved : ∀ name, d.saved name = none →
    fs.entry (Filepath.join dir (name ++ ".yaml")) = fs₀.entry (Filepath.join dir (name ++ ".yaml"))
  current : ∀ name, d.current = some name → (d.saved name).isSome ∧
    fs.entry (Filepath.join dir currentProfileSymlink) = some (.symlink (name ++ ".yaml"))

theorem join_yaml_inj (dir : Path) (a b : String) :
    Filepath.join dir (a ++ ".yaml") = Filepath.join dir (b ++ ".yaml") ↔ a = b := by
  simp [Filepath.join, String.ext_iff]

/-- No profile file is the `profile` link. -/
theorem join_yaml_ne_current (dir : Path) (a : String) :
    Filepath.join dir (a ++ ".yaml") ≠ Filepath.join dir currentProfileSymlink := by
  intro h
  have h' : a ++ ".yaml" = currentProfileSymlink := by simpa [Filepath.join] using h
  have hlast := congrArg (fun s : String => s.data.getLast?) h'
  simp [currentProfileSymlink, List.getLast?_append] at hlast

theorem ProfileDir.stored_empty (yaml : Yaml) (dir : Path) (fs : FS) :
    ProfileDir.empty.Stored yaml dir fs fs :=
  ⟨fun _ _ h => (by cases h), fun _ _ => rfl, fun _ h => (by cases h)⟩

section Run
variable {yaml : Yaml} {dir : Path} {fs₀ : FS}

/-- A profile file of a directory that holds the record is not a link. -/
theorem ProfileDir.Stored.not_symlink {d : ProfileDir} {fs : FS} (h : d.Stored yaml dir fs₀ fs)
    (hfs : ∀ name t, fs₀.entry (Filepath.join dir (name ++ ".yaml")) ≠ some (.symlink t)) (name : String) :
    ∀ t, fs.entry (Filepath.join dir (name ++ ".yaml")) ≠ some (.symlink t) := by
  rcases hs : d.saved name with _ | cp
  · rw [h.unsaved name hs]
    exact hfs name
  · obtain ⟨bytes, -, he⟩ := h.saved name cp hs
    simp [he]

/-- **One save keeps the files holding the record.** -/
theorem ProfileDir.Stored.record {d : ProfileDir} {fs : FS} (h : d.Stored yaml dir fs₀ fs)
    (hfs : ∀ name t, fs₀.entry (Filepath.join dir (name ++ ".yaml")) ≠ some (.symlink t))
    (s : ProfileSave) :
    (d.record yaml s).Stored yaml dir fs₀ (s.profile.saveTo yaml (s.location dir) SaveFaults.none fs).2 := by
  rcases hm : yaml.marshal s.profile with e | bytes
  · simpa [ProfileDir.record, hm, ClientProfile.saveTo] using h
  have hlink := h.not_symlink hfs s.name
  have hcur : ∀ name, Filepath.join dir (name ++ ".yaml") ≠
      Filepath.join (Filepath.dir (Filepath.join dir (s.name ++ ".yaml"))) currentProfileSymlink :=
    fun name => by simpa using join_yaml_ne_current dir name
  -- the other names' files are as they were
  have hother : ∀ name, name ≠ s.name →
      (s.profile.saveTo yaml (s.location dir) SaveFaults.none fs).2.entry
        (Filepath.join dir (name ++ ".yaml")) = fs.entry (Filepath.join dir (name ++ ".yaml")) :=
    fun name hn => saveTo_noAlias_entry_of_ne yaml _ _ _ fs hm hlink
      (mt (join_yaml_inj dir name s.name).mp hn) (hcur name)
  simp only [ProfileDir.record, hm]
  refine ⟨fun name cp hcp => ?_, fun name hnone => ?_, fun name hcur' => ?_⟩
  · by_cases hn : name = s.name
    · subst hn
      simp only [Function.update_same, Option.some.injEq] at hcp
      exact ⟨bytes, hcp ▸ hm, saveTo_noAlias_entry_self yaml _ _ _ fs hm hlink (hcur _)⟩
    · obtain ⟨bytes', hm', he⟩ := h.saved name cp (by simpa [Function.update_noteq hn] using hcp)
      exact ⟨bytes', hm', (hother name hn).trans he⟩
  · by_cases hn : name = s.name
    · subst hn
      simp at hnone
    · exact (hother name hn).trans (h.unsaved name (by simpa [Function.update_noteq hn] using hnone))
  · have hentry := saveTo_noAlias_entry_current yaml s.profile _ s.options fs hm hlink (hcur _)
    simp only [Filepath.dir_join, Filepath.base_join] at hentry
    simp only [ProfileSave.location, hentry]
    split_ifs at hcur' ⊢
    · cases hcur'
      simp
    · obtain ⟨hsaved, hl⟩ := h.current name hcur'
      refine ⟨?_, hl⟩
      by_cases hn : name = s.name
      · rw [hn, Function.update_same]; rfl
      · rwa [Function.update_noteq hn]

/-- **A run of saves keeps the files holding the record.** -/
theorem ProfileDir.Stored.saveRun {d : ProfileDir} {fs : FS} (h : d.Stored yaml dir fs₀ fs)
    (hfs : ∀ name t, fs₀.entry (Filepath.join dir (name ++ ".yaml")) ≠ some (.symlink t))
    (saves : List ProfileSave) :
    (saves.foldl (ProfileDir.record yaml) d).Stored yaml dir fs₀ (saveRun yaml dir fs saves) := by
  induction saves generalizing d fs with
  | nil => exact h
  | cons s saves ih => exact ih (h.record hfs s)

/-- A file that is not a link reads as its entry says. -/
theorem FS.readFile_congr {fs fs' : FS} {p : Path} (he : fs.entry p = fs'.entry p)
    (hlink : ∀ t, fs.entry p ≠ some (.symlink t)) : fs.readFile p = fs'.readFile p := by
  simp [FS.readFile, FS.resolve_of_not_symlink hlink, FS.resolve_of_not_symlink (he ▸ hlink), he]

end Run

end AccessPagerduty
