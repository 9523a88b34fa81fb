import ClusterLock.JsonForm
import ClusterLock.Proofs.Reading
import ClusterLock.Proofs.Spelling

/-
  Clusters, owner references and lock records written as JSON and read back. A value is read from
  the draft of what it is written as (`read_draft`), and a reader gets the same from every text
  that holds it (`run_of_spells`), so that `roundTrip_of_draft` has the round trip for all of them:
  any text with blanks between its parts gives the value back, and so does the value that some
  other text was read as.
-/
namespace ClusterLock

/-! ## Round trips -/

/-- What is written is read back, from the compact text and from every text with blanks before,
between and after the parts; and so is whatever has been read. -/
structure RoundTrip {α : Type} (write : α → Json) (read : Reader α) : Prop where
  compact : ∀ a, read.run (write a).compact.toList = .ok a
  spaced : ∀ a cs, Spaced (write a).tokens cs → read.run cs = .ok a
  /-- The text may spell the value in another way: with its members in another order or with none
  of their names, with other escapes, or with members left out. -/
  again : ∀ cs a, read.run cs = .ok a → read.run (write a).compact.toList = .ok a

/-- A value without numbers has a draft that its texts spell. -/
theorem roundTrip_of_draft {α : Type} {write : α → Json} {read : Reader α}
    (hplain : ∀ a, (write a).Plain) (hread : ∀ a, read (write a).draft = .ok a) :
    RoundTrip write read := by
  have hspaced : ∀ a cs, Spaced (write a).tokens cs → read.run cs = .ok a := by
    intro a cs h
    rw [run_of_spells (spells_of_spaced (hplain a) h), hread]
  have hcompact : ∀ a, read.run (write a).compact.toList = .ok a := by
    intro a
    rw [Json.compact, String.toList_ofList, run_of_spells (spells_render (hplain a)), hread]
  exact ⟨hcompact, hspaced, fun _ a _ => hcompact a⟩

/-! ## The three kinds of value -/

theorem Cluster.plain_toJson (c : Cluster) : c.toJson.Plain := by
  simp [toJson, Json.Plain, PlainMembers]

theorem Cluster.read_draft (c : Cluster) : read c.toJson.draft = .ok c := rfl

theorem OwnerRef.plain_toJson (o : OwnerRef) : o.toJson.Plain := by
  simp [toJson, Json.Plain, PlainMembers]

theorem OwnerRef.read_draft (o : OwnerRef) : read o.toJson.draft = .ok o := rfl

theorem plainItems_owners (owners : List OwnerRef) :
    PlainItems (owners.map OwnerRef.toJson) := by
  induction owners with
  | nil => trivial
  | cons o owners ih => exact ⟨o.plain_toJson, ih⟩

theorem LockRecord.plain_toJson (r : LockRecord) : r.toJson.Plain := by
  simp [toJson, Json.Plain, PlainMembers, plainItems_owners]

theorem LockRecord.read_draft (r : LockRecord) : read r.toJson.draft = .ok r := by
  obtain ⟨ns, name, owners⟩ := r
  -- the list of owners is the only member that is read by recursion
  have howners : FieldShape.visit fields [("namespace", .text ns), ("name", .text name)]
      "ownerReferences" (Json.array (owners.map OwnerRef.toJson)).draft =
        .ok [("namespace", .text ns), ("name", .text name),
          ("ownerReferences", .owners owners)] := by
    have hlist : Reader.list OwnerRef.read (Json.array (owners.map OwnerRef.toJson)).draft =
        .ok owners := Reader.items_map OwnerRef.read OwnerRef.toJson OwnerRef.read_draft owners
    show Except.map _ (Except.map _ (Reader.list OwnerRef.read _)) = _
    rw [hlist]
    rfl
  have hmembers : Reader.members (FieldShape.visit fields)
      (draftMembers [("namespace", .text ns), ("name", .text name),
        ("ownerReferences", .array (owners.map OwnerRef.toJson))]) none [] =
      .ok [("namespace", .text ns), ("name", .text name), ("ownerReferences", .owners owners)] := by
    show (do
      let filled ← FieldShape.visit fields [("namespace", .text ns), ("name", .text name)]
        "ownerReferences" (Json.array _).draft
      Reader.members (FieldShape.visit fields) [] none filled) = _
    rw [howners]
    rfl
  have hall : FieldShape.readAll "LockRecord" fields (LockRecord.mk ns name owners).toJson.draft =
      .ok [.text ns, .text name, .owners owners] := by
    show (do let filled ← Reader.members _ _ _ _; FieldShape.gather filled fields) = _
    rw [hmembers]
    rfl
  rw [read, hall]
  rfl

/-- **What is written is read back**: clusters, owner references and lock records, whatever
characters their texts hold and however many owners there are. -/
theorem roundTrip :
    RoundTrip Cluster.toJson Cluster.read ∧ RoundTrip OwnerRef.toJson OwnerRef.read ∧
      RoundTrip LockRecord.toJson LockRecord.read :=
  ⟨roundTrip_of_draft Cluster.plain_toJson Cluster.read_draft,
    roundTrip_of_draft OwnerRef.plain_toJson OwnerRef.read_draft,
    roundTrip_of_draft LockRecord.plain_toJson LockRecord.read_draft⟩

/-- The members may stand in an array, with blanks between them and with any escapes. -/
example : OwnerRef.read.run
    " [ \"v1\",\t\"\\u0043luster\", \"cl\\/1\" ,\n\"\\uD83D\\uDE00\\\"\" ] ".toList =
      .ok ⟨"v1", "Cluster", "cl/1", "😀\""⟩ := by
  decide +kernel

end ClusterLock
