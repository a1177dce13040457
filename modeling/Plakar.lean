import Plakar.State.Basic
import Plakar.State.Intern
import Plakar.State.Concurrent
import Plakar.State.Lookup
import Plakar.State.Methods
import Plakar.Packfile
import Plakar.Snapshot.Session
import Plakar.Snapshot.Packer
import Plakar.Snapshot.Commit
import Plakar.Snapshot.Read
import Plakar.Snapshot.Reload
import Plakar.Snapshot.Complete
import Plakar.Snapshot.Threshold
import Plakar.Snapshot.Check
import Plakar.Msgpack.Basic
import Plakar.Msgpack.RoundTrip
import Plakar.State.Serialize
import Plakar.Plakard
import Plakar.Api
import Plakar.Storage.S3
import Plakar.Storage.S3Store
import Plakar.Locate
import Plakar.Vfs.FileEntry
