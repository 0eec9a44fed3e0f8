namespace CompletionRing.Limits

-- One record is 16 bytes: the token, the result, the flags.
def recordSize : Nat := 16
def tokenOffset : Nat := 0
def resultOffset : Nat := 8
def flagsOffset : Nat := 12

-- The upper half of the flags is the id of a buffer.
def bufferFlag : UInt32 := 1
-- More completions follow for the same request.
def moreFlag : UInt32 := 2
-- The socket still has data after this receive.
def socketFlag : UInt32 := 4
-- A notification rather than a result of a send.
def notificationFlag : UInt32 := 8
def bufferShift : UInt32 := 16

def defaultEntries : UInt32 := 4096
def maxEntries : UInt32 := 65536
def defaultBatchLimit : UInt64 := 256

-- One cache line, so that head and tail share none.
def regionAlignment : Nat := 64

end CompletionRing.Limits
