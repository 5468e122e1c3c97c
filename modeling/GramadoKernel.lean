import GramadoKernel.Library.Ring
import GramadoKernel.Library.Runs
import GramadoKernel.State
import GramadoKernel.Scheduling
import GramadoKernel.Library.Linked
import GramadoKernel.Ipc
import GramadoKernel.MessageQueue
import GramadoKernel.MessageRuns
import GramadoKernel.MessageDelivery
import GramadoKernel.Scheduler
import GramadoKernel.Round
import GramadoKernel.TaskSwitch
import GramadoKernel.Creation
import GramadoKernel.Switching
import GramadoKernel.Tick
import GramadoKernel.Machine
import GramadoKernel.SingleRunning
import GramadoKernel.Unschedulable
import GramadoKernel.Selection
import GramadoKernel.Waking
import GramadoKernel.Sleeping
import GramadoKernel.Library.Ranges
import GramadoKernel.Heap
import GramadoKernel.PagePool
import GramadoKernel.Library.Loops
import GramadoKernel.Volume
import GramadoKernel.LoadFile
import GramadoKernel.SaveFile
import GramadoKernel.ClusterAllocation
import GramadoKernel.FailedSave
import GramadoKernel.ReadBack
import GramadoKernel.LoadedChain
import GramadoKernel.SaveRuns
import GramadoKernel.SaveReplaces
import GramadoKernel.FileBuffer
import GramadoKernel.StreamBuffer
import GramadoKernel.Descriptors
import GramadoKernel.SocketFile
import GramadoKernel.Connections
import GramadoKernel.AcceptedDescriptor
import GramadoKernel.Backlog
import GramadoKernel.ClientPorts
import GramadoKernel.Library.Bytes
import GramadoKernel.Network
import GramadoKernel.Receive
import GramadoKernel.Frames
import GramadoKernel.ReceivePath
import GramadoKernel.Handshake
import GramadoKernel.Library.Checksum
import GramadoKernel.NetChecksum
import GramadoKernel.RoundTrip
import GramadoKernel.Conversation
import GramadoKernel.PacketRing
import GramadoKernel.Accounting
import GramadoKernel.Duplicates
import GramadoKernel.SharedStream
import GramadoKernel.Library.TableWalk
import GramadoKernel.PageTables
import GramadoKernel.Processes
import GramadoKernel.Cloning
import GramadoKernel.AddressSpaces
import GramadoKernel.Isolation
import GramadoKernel.FailedClone
import GramadoKernel.SharedFiles
import GramadoKernel.Tty
import GramadoKernel.ProcessHeaps
import GramadoKernel.Mouse
import GramadoKernel.StreamSeek
import GramadoKernel.Library.Numerals
import GramadoKernel.Printk
import GramadoKernel.WorkingDirectory
import GramadoKernel.Console
import GramadoKernel.ConsolePaths
import GramadoKernel.ConsoleWrite
import GramadoKernel.ConsoleCells
import GramadoKernel.ZOrder
import GramadoKernel.ZOrderRuns
import GramadoKernel.WindowEvents
import GramadoKernel.Keyboard
import GramadoKernel.Lookups
import GramadoKernel.ShortNames
import GramadoKernel.DecimalStrings
import GramadoKernel.SeekBack
import GramadoKernel.Pointer
import GramadoKernel.TtyLink
import GramadoKernel.RegionMapping
import GramadoKernel.ArpReply
import GramadoKernel.RoundList
import GramadoKernel.RoundRuns
import GramadoKernel.PrintedText
import GramadoKernel.PlainOutput
import GramadoKernel.EscapeSequences
import GramadoKernel.SequenceRuns
import GramadoKernel.EndlessConsole
import GramadoKernel.CursorMoves
import GramadoKernel.EndedSequences
import GramadoKernel.FreeSlots
import GramadoKernel.Raising
import GramadoKernel.MouseRelease
import GramadoKernel.Prompt
import GramadoKernel.Library.Moving
import GramadoKernel.Display
import GramadoKernel.Rectangles
import GramadoKernel.ScreenCopies
import GramadoKernel.Refreshing
import GramadoKernel.Scrolling
import GramadoKernel.Bitmap
import GramadoKernel.BitmapRows
import GramadoKernel.BitmapZoom
import GramadoKernel.PathLoading
import GramadoKernel.PathNames
import GramadoKernel.PathWalks
import GramadoKernel.DisplayServer
import GramadoKernel.DisplayCalls
import GramadoKernel.DisplayRuns
import GramadoKernel.OpenFile
import GramadoKernel.OpenNames
import GramadoKernel.OpenedFiles
import GramadoKernel.OpenReads
import GramadoKernel.KernelMap
import GramadoKernel.MapRuns
import GramadoKernel.Shielding
