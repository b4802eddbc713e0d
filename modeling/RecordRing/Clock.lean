set_option autoImplicit false

namespace RecordRing

namespace Clock

/-- A moment given in seconds and nanoseconds, as the system reports it. -/
def ofSeconds (seconds nanoseconds : UInt64) : UInt64 :=
  seconds * 1000000000 + nanoseconds

end Clock

end RecordRing
